import OrgAccess.Fault
import OrgAccess.Row
import OrgAccess.Table

/-! The store: six tables and the writes on them. A write goes by steps that look at the tables and
change them in place, and it fails at the first rule that it breaks. -/

namespace OrgAccess

/-- An org and the code of a product. -/
abbrev SubscriptionKey := OrgId × String

structure Store where
  orgs : Table OrgId Org := ∅
  users : Table UserId User := ∅
  entities : Table EntityId Entity := ∅
  memberships : Table MembershipId Membership := ∅
  affiliations : Table Affiliation Unit := ∅
  subscriptions : Table SubscriptionKey Subscription := ∅

/-- Why a write is refused. -/
inductive StoreFault where
  | identifierTaken (identifier : String)
  | membershipExists (id : MembershipId)
  | secondActiveMembership (user : UserId) (org : OrgId)
  | notFound
  deriving DecidableEq

def StoreFault.asDomainFault : StoreFault → DomainFault
  | .identifierTaken identifier =>
    .invalid ("business identifier '" ++ identifier ++ "' is already registered")
  | .membershipExists id => .invalid ("membership " ++ id.text ++ " already exists")
  | .secondActiveMembership user org =>
    .invalid ("user " ++ user.text ++ " already holds an active membership in org " ++ org.text)
  | .notFound => .notFound

/-- One write. -/
inductive Write where
  | putOrg (org : Org)
  | putUser (user : User)
  | putEntity (entity : Entity)
  | addMembership (membership : Membership)
  | changeRole (id : MembershipId) (role : Role)
  | setMembershipStatus (id : MembershipId) (status : MembershipStatus)
  | deactivate (id : MembershipId)
  | setOrgStatus (id : OrgId) (status : OrgStatus)
  | affiliate (affiliation : Affiliation)
  | removeAffiliation (affiliation : Affiliation)
  | subscribe (subscription : Subscription)
  deriving DecidableEq

namespace Store

def empty : Store := {}

/-- The user holds an active membership in the org. -/
def hasActive (s : Store) (user : UserId) (org : OrgId) : Bool :=
  s.memberships.values.any fun m => m.userId = user ∧ m.orgId = org ∧ m.isActive

def isAffiliated (s : Store) (a : Affiliation) : Bool := s.affiliations.contains a

def removeAffiliation (s : Store) (a : Affiliation) : Store :=
  { s with affiliations := s.affiliations.erase a }

/-- Take an affiliation away, and tell whether there was one to take. -/
def takeAffiliation (s : Store) (a : Affiliation) : Bool × Store :=
  if s.isAffiliated a then (true, s.removeAffiliation a) else (false, s)

end Store

/-- Steps that look at a store, change it in place, and may fail. A failure takes nothing back of
what was changed before it. -/
abbrev Update := ExceptT StoreFault (StateM Store)

namespace Update

/-- What comes of an update of a store, and the store that it leaves. -/
def on {α : Type} (u : Update α) (s : Store) : Except StoreFault α × Store := u.run.run s

/-- Fail if the store breaks a rule. -/
def refuseIf (broken : Store → Bool) (fault : StoreFault) : Update Unit := do
  if broken (← get) then throw fault

/-- Look up a record that has to be there. -/
def require {α : Type} (find? : Store → Option α) : Update α := do
  match find? (← get) with
  | some a => return a
  | none => throw .notFound

def putOrg (org : Org) : Update Unit :=
  modify fun s => { s with orgs := s.orgs.insert org.id org }

def putUser (user : User) : Update Unit :=
  modify fun s => { s with users := s.users.insert user.id user }

/-- A business identifier belongs to one entity. -/
def putEntity (entity : Entity) : Update Unit := do
  refuseIf
    (fun s => s.entities.values.any fun e =>
      e.businessIdentifier = entity.businessIdentifier ∧ e.id ≠ entity.id)
    (.identifierTaken entity.businessIdentifier)
  modify fun s => { s with entities := s.entities.insert entity.id entity }

/-- A membership is new, its org and user exist, and it is the only active one of the two. -/
def addMembership (m : Membership) : Update Unit := do
  refuseIf (·.memberships.contains m.id) (.membershipExists m.id)
  refuseIf (fun s => ¬ (s.orgs.contains m.orgId ∧ s.users.contains m.userId)) .notFound
  refuseIf (fun s => m.isActive ∧ s.hasActive m.userId m.orgId)
    (.secondActiveMembership m.userId m.orgId)
  modify fun s => { s with memberships := s.memberships.insert m.id m }

def changeRole (id : MembershipId) (role : Role) : Update Unit := do
  let _ ← require (·.memberships.find? id)
  modify fun s => { s with memberships := s.memberships.modify id ({ · with role := role }) }

/-- A membership is made active again only if its user holds no other active one in the org. -/
def setMembershipStatus (id : MembershipId) (status : MembershipStatus) : Update Unit := do
  let m ← require (·.memberships.find? id)
  refuseIf (fun s => status = .active ∧ ¬ m.isActive ∧ s.hasActive m.userId m.orgId)
    (.secondActiveMembership m.userId m.orgId)
  modify fun s => { s with memberships := s.memberships.modify id ({ · with status := status }) }

def setOrgStatus (id : OrgId) (status : OrgStatus) : Update Unit := do
  let _ ← require (·.orgs.find? id)
  modify fun s => { s with orgs := s.orgs.modify id (·.withStatus status) }

def affiliate (a : Affiliation) : Update Unit := do
  refuseIf (fun s => ¬ (s.orgs.contains a.orgId ∧ s.entities.contains a.entityId)) .notFound
  modify fun s => { s with affiliations := s.affiliations.insert a () }

/-- An org holds one subscription to a product, whatever its status. -/
def subscribe (sub : Subscription) : Update Unit := do
  refuseIf (fun s => ¬ s.orgs.contains sub.orgId) .notFound
  modify fun s =>
    { s with subscriptions := s.subscriptions.insert (sub.orgId, sub.productCode) sub }

end Update

/-- The steps of a write. -/
def Write.update : Write → Update Unit
  | .putOrg org => .putOrg org
  | .putUser user => .putUser user
  | .putEntity entity => .putEntity entity
  | .addMembership m => .addMembership m
  | .changeRole id role => .changeRole id role
  | .setMembershipStatus id status => .setMembershipStatus id status
  | .deactivate id => .setMembershipStatus id .inactive
  | .setOrgStatus id status => .setOrgStatus id status
  | .affiliate a => .affiliate a
  | .removeAffiliation a => modify (·.removeAffiliation a)
  | .subscribe sub => .subscribe sub

namespace Store

/-- Carry out a write: what comes of it, and the store that it leaves. -/
def perform (s : Store) (w : Write) : Except StoreFault Unit × Store := w.update.on s

/-- The store that a write leaves, refused or not. -/
def after (s : Store) (w : Write) : Store := (s.perform w).2

def run (s : Store) (ws : List Write) : Store := ws.foldl after s

/-- The stores that writes can lead to. -/
def Reachable (s : Store) : Prop := ∃ ws, s = empty.run ws

end Store

end OrgAccess
