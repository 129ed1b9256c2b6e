import OrgAccess.Record

/-! Rows of the authorization view: one active membership with its org and user, and at most one
affiliated entity and one subscribed product. -/

namespace OrgAccess

/-- What a row, or an org itself, tells about the account. -/
structure Account where
  orgId : OrgId
  name : String
  orgType : String
  status : OrgStatus
  bcolUserId : Option String
  bcolAccountId : Option String
  deriving DecidableEq

def Org.account (org : Org) : Account :=
  ⟨org.id, org.name, org.typeCode, org.statusCode, org.bcolUserId, org.bcolAccountId⟩

structure Business where
  identifier : String
  corpTypeCode : Option String
  name : Option String
  folioNumber : Option String
  deriving DecidableEq

/-- The entity columns are absent when the org has no affiliation, and the product when it has
no active subscription. -/
structure Row where
  businessIdentifier : Option String
  entityName : Option String
  corpTypeCode : Option String
  folioNumber : Option String
  role : Role
  guid : Guid
  orgId : OrgId
  orgName : String
  orgType : String
  orgStatus : OrgStatus
  bcolUserId : Option String
  bcolAccountId : Option String
  productCode : Option String
  membershipId : MembershipId
  deriving DecidableEq

namespace Row

def join (membership : Membership) (org : Org) (user : User) (entity : Option Entity)
    (product : Option String) : Row where
  businessIdentifier := entity.map (·.businessIdentifier)
  entityName := entity.bind (·.name)
  corpTypeCode := entity.map (·.corpTypeCode)
  folioNumber := entity.bind (·.folioNumber)
  role := membership.role
  guid := user.guid
  orgId := org.id
  orgName := org.name
  orgType := org.typeCode
  orgStatus := org.statusCode
  bcolUserId := org.bcolUserId
  bcolAccountId := org.bcolAccountId
  productCode := product
  membershipId := membership.id

def account (row : Row) : Account :=
  ⟨row.orgId, row.orgName, row.orgType, row.orgStatus, row.bcolUserId, row.bcolAccountId⟩

def business (row : Row) : Option Business :=
  row.businessIdentifier.map fun identifier =>
    ⟨identifier, row.corpTypeCode, row.entityName, row.folioNumber⟩

/-- What decides between rows: the rank of the role, then the membership, then the business,
where a row without one comes first. -/
abbrev Precedence := Nat × MembershipId × Option String

def precedence (row : Row) : Precedence :=
  (row.role.rank, row.membershipId, row.businessIdentifier)

theorem account_join (membership : Membership) (org : Org) (user : User)
    (entity : Option Entity) (product : Option String) :
    (join membership org user entity product).account = org.account := rfl

end Row

/-- Criteria on rows. Each one that is set has to be met. -/
structure Filter where
  guid : Option Guid := none
  orgId : Option OrgId := none
  businessIdentifier : Option String := none
  productCode : Option String := none
  corpType : Option String := none
  deriving DecidableEq

namespace Filter

/-- Nothing is asked for, or exactly what is there. -/
def meets {α : Type} [DecidableEq α] (wanted : Option α) (found : Option α) : Bool :=
  wanted = none ∨ wanted = found

/-- A corp type is met by rows of that type and by rows without an entity. -/
def meetsOrAbsent (wanted : Option String) (found : Option String) : Bool :=
  found = none ∨ meets wanted found

def admits (filter : Filter) (row : Row) : Bool :=
  meets filter.guid (some row.guid) && meets filter.orgId (some row.orgId) &&
    meets filter.businessIdentifier row.businessIdentifier &&
    meets filter.productCode row.productCode && meetsOrAbsent filter.corpType row.corpTypeCode

/-- The rows that meet every criterion. -/
def select (filter : Filter) (rows : List Row) : List Row := rows.filter filter.admits

end Filter

end OrgAccess
