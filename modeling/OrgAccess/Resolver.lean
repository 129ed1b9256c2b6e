import OrgAccess.Inquiry
import OrgAccess.Store.View

/-! Resolution answers an inquiry in at most two reads: one of the store, which settles the role,
the account and the business, and one of the permission table, which adds the actions. The
reads go to tables in memory or to a database whose pool of connections is closed, where every
read fails. -/

namespace OrgAccess

/-- What one read of the store settles. -/
structure Standing where
  role : Role
  account : Account
  business : Option Business
  deriving DecidableEq

namespace Standing

def ofRow (row : Row) : Standing := ⟨row.role, row.account, row.business⟩

def staffOfRow (row : Row) : Standing := ⟨.staff, row.account, row.business⟩

def staffOfOrg (org : Org) : Standing := ⟨.staff, org.account, none⟩

def withActions (s : Standing) (actions : List Action) : Authorization :=
  ⟨s.role, actions, s.account, s.business⟩

/-- The standing with the actions of its role at the status of its account. -/
def grantedBy (s : Standing) (table : PermissionTable) : Authorization :=
  s.withActions (table.actionsFor s.role s.account.status)

end Standing

/-- The standing that an inquiry finds in a store. -/
def Inquiry.standing? (s : Store) : Inquiry → Option Standing
  | .winner filter => (s.fetch filter).map .ofRow
  | .staffWinner filter => (s.fetch filter).map .staffOfRow
  | .staffOrg org => (s.orgs.find? org).map .staffOfOrg

/-- The standings of a user, one for each org. -/
def Store.standingsOf (s : Store) (guid : Guid) : List Standing :=
  (s.fetchPerOrg { guid := some guid }).map .ofRow

/-- Several standings take one read of the table, which only their roles need. -/
def Standing.allGrantedBy (standings : List Standing) (table : PermissionTable) :
    List Authorization :=
  let roles := (Table.ofKeys (standings.map (·.role))).keys
  standings.map fun s => s.grantedBy (table.restrictTo roles)

/-- The reads of a source. -/
inductive Reading where
  | fetch
  | fetchPerOrg
  | findOrg
  | actionsFor
  | tableForRoles
  | applySchema
  | connect
  deriving DecidableEq

def Reading.name : Reading → String
  | .fetch => "fetch_authoritative"
  | .fetchPerOrg => "fetch_per_org"
  | .findOrg => "find_org"
  | .actionsFor => "actions_for"
  | .tableForRoles => "table_for_roles"
  | .applySchema => "apply_schema"
  | .connect => "connect"

/-- Why a source cannot be read. -/
inductive SourceFault where
  | poolClosed (reading : Reading)
  | relativeUrl
  deriving DecidableEq

def SourceFault.message : SourceFault → String
  | .poolClosed reading => "connection pool closed in " ++ reading.name
  | .relativeUrl =>
    "sqlx error in " ++ Reading.connect.name ++
      ": error with configuration: relative URL without a base"

/-- Why there is no answer: the request is malformed or the source cannot be read. -/
inductive ResolveFault where
  | request (fault : RequestFault)
  | source (fault : SourceFault)
  deriving DecidableEq

def ResolveFault.message : ResolveFault → String
  | .request .missingIdentity => "missing identity"
  | .request .missingTarget => "missing target"
  | .request (.invalidInput fault) => "invalid input: " ++ fault.message
  | .source fault => "store error: " ++ fault.message

/-- Where authorizations are read from. -/
inductive Source where
  | inMemory (store : Store) (permissions : PermissionTable)
  | closedPool

namespace Source

def name : Source → String
  | .inMemory _ _ => "in_memory"
  | .closedPool => "postgres"

def read {α : Type} (source : Source) (reading : Reading) (f : Store → PermissionTable → α) :
    Except SourceFault α :=
  match source with
  | .inMemory store permissions => .ok (f store permissions)
  | .closedPool => .error (.poolClosed reading)

def fetch (source : Source) (filter : Filter) : Except SourceFault (Option Row) :=
  source.read .fetch fun store _ => store.fetch filter

def fetchPerOrg (source : Source) (filter : Filter) : Except SourceFault (List Row) :=
  source.read .fetchPerOrg fun store _ => store.fetchPerOrg filter

def findOrg (source : Source) (org : OrgId) : Except SourceFault (Option Org) :=
  source.read .findOrg fun store _ => store.orgs.find? org

def actionsFor (source : Source) (role : Role) (status : OrgStatus) :
    Except SourceFault (List Action) :=
  source.read .actionsFor fun _ table => table.actionsFor role status

def tableForRoles (source : Source) (roles : List Role) : Except SourceFault PermissionTable :=
  source.read .tableForRoles fun _ table => table.restrictTo roles

/-- The read that an inquiry begins with. -/
def firstReading : Inquiry → Reading
  | .winner _ => .fetch
  | .staffWinner _ => .fetch
  | .staffOrg _ => .findOrg

/-- Answer an inquiry: read the store, then the table. -/
def answer (source : Source) (inquiry : Inquiry) : Except SourceFault (Option Authorization) := do
  match ← source.read (firstReading inquiry) fun store _ => inquiry.standing? store with
  | none => return none
  | some standing =>
    return some (standing.withActions
      (← source.actionsFor standing.role standing.account.status))

/-- Answer a request. -/
def resolve (source : Source) (request : Request) :
    Except ResolveFault (Option Authorization) := do
  let inquiry ← request.inquiry.mapError .request
  (source.answer inquiry).mapError .source

/-- Every authorization of a user, one for each org, in the order of the orgs. -/
def resolveAll (source : Source) (guid : Guid) : Except SourceFault (List Authorization) := do
  let standings ← source.read .fetchPerOrg fun store _ => store.standingsOf guid
  if standings.isEmpty then return []
  source.read .tableForRoles fun _ table => Standing.allGrantedBy standings table

end Source

end OrgAccess
