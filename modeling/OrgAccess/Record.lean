import OrgAccess.Guid
import OrgAccess.Role
import OrgAccess.Status
import OrgAccess.Id

/-! The records that authorizations are worked out from: orgs, users, the businesses called
entities, who is a member of which org, which entities an org is affiliated with, and which
products it subscribes to. -/

namespace OrgAccess

structure Org where
  id : OrgId
  name : String
  typeCode : String
  statusCode : OrgStatus
  bcolAccountId : Option String
  bcolUserId : Option String
  deriving DecidableEq

/-- A basic, active org without payment identifiers. -/
def Org.basic (id : OrgId) (name : String) : Org :=
  ⟨id, name, "BASIC", .active, none, none⟩

def Org.withStatus (org : Org) (status : OrgStatus) : Org := { org with statusCode := status }

structure User where
  id : UserId
  guid : Guid
  username : String
  deriving DecidableEq

/-- A registered business. -/
structure Entity where
  id : EntityId
  businessIdentifier : String
  corpTypeCode : String
  name : Option String
  folioNumber : Option String
  deriving DecidableEq

structure Membership where
  id : MembershipId
  userId : UserId
  orgId : OrgId
  role : Role
  status : MembershipStatus
  deriving DecidableEq

def Membership.active (id : MembershipId) (userId : UserId) (orgId : OrgId) (role : Role) :
    Membership :=
  ⟨id, userId, orgId, role, .active⟩

def Membership.isActive (m : Membership) : Bool := m.status = .active

/-- An org that may act for an entity. -/
@[ext]
structure Affiliation where
  orgId : OrgId
  entityId : EntityId
  deriving DecidableEq

/-- Affiliations are ordered by org, then by entity. -/
instance : Ordered Affiliation :=
  Ordered.along (fun a => (a.orgId, a.entityId)) (fun h =>
    Affiliation.ext (Prod.ext_iff.1 h).1 (Prod.ext_iff.1 h).2)

/-- The values from a first to a last one, both included. -/
structure Interval (α : Type) where
  first : α
  last : α

def Interval.contains {α : Type} [Ordered α] (r : Interval α) (a : α) : Bool :=
  ¬ Precedes a r.first ∧ ¬ Precedes r.last a

/-- The interval that holds every affiliation of an org. -/
def Affiliation.bounds (org : OrgId) : Interval Affiliation :=
  ⟨⟨org, ⟨Int64.minValue⟩⟩, ⟨org, ⟨Int64.maxValue⟩⟩⟩

structure Subscription where
  orgId : OrgId
  productCode : String
  status : SubscriptionStatus
  deriving DecidableEq

def Subscription.active (orgId : OrgId) (productCode : String) : Subscription :=
  ⟨orgId, productCode, .active⟩

def Subscription.isActive (s : Subscription) : Bool := s.status = .active

end OrgAccess
