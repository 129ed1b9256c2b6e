import OrgAccess.Json.View
import OrgAccess.Resolver

/-! Web responses: a status, and a body that lists what is granted or names what went wrong. -/

namespace OrgAccess.Web

open Json (ofFields ofOption ofText)

/-- What is told about an authorization. The account and the business are told on demand. -/
structure Grant where
  membership : Option Role
  roles : List Action
  account : Option Account
  business : Option Business
  deriving DecidableEq

namespace Grant

/-- Nothing is granted. -/
def empty : Grant := ⟨none, [], none, none⟩

def of (a : Authorization) (expanded : Bool) : Grant :=
  if expanded then ⟨some a.role, a.actions, some a.account, a.business⟩
  else ⟨some a.role, a.actions, none, none⟩

def ofOption (a : Option Authorization) (expanded : Bool) : Grant :=
  match a with
  | none => empty
  | some a => of a expanded

def accountJson (a : Account) : Json :=
  ofFields [("id", a.orgId.toJson), ("name", ofText a.name), ("accountType", ofText a.orgType),
    ("accountStatus", a.status.toJson),
    ("paymentPreference", ofFields [("bcOnlineUserId", Json.ofOption ofText a.bcolUserId),
      ("bcOnlineAccountId", Json.ofOption ofText a.bcolAccountId)])]

def businessJson (b : Business) : Json :=
  ofFields [("identifier", ofText b.identifier), ("name", Json.ofOption ofText b.name),
    ("folioNumber", Json.ofOption ofText b.folioNumber)]

/-- What is absent is left out. -/
def toJson (g : Grant) : Json :=
  ofFields (g.membership.toList.map (fun role => ("orgMembership", role.toJson)) ++
    [("roles", Json.ofList Action.toJson g.roles)] ++
    g.account.toList.map (fun a => ("account", accountJson a)) ++
    g.business.toList.map (fun b => ("business", businessJson b)))

end Grant

inductive Body where
  | none
  | grant (g : Grant)
  | listing (gs : List Grant)
  | problem (code message : String)
  deriving DecidableEq

/-- The JSON document of a body, if it has one. -/
def Body.toJson? : Body → Option Json
  | .none => Option.none
  | .grant g => some g.toJson
  | .listing gs => some (ofFields [("authorizations", Json.ofList Grant.toJson gs)])
  | .problem code message =>
    some (ofFields [("error", ofText code), ("message", ofText message)])

structure Response where
  status : Nat
  body : Body
  deriving DecidableEq

namespace Response

/-- A status alone. -/
def bare (status : Nat) : Response := ⟨status, .none⟩

def ofRequestFault : RequestFault → Response
  | .missingIdentity => ⟨401, .problem "missing_identity" "missing identity"⟩
  | .missingTarget => ⟨400, .problem "missing_target" "missing target"⟩
  | .invalidInput fault => ⟨400, .problem "invalid_input" fault.message⟩

def ofSourceFault (fault : SourceFault) : Response :=
  ⟨500, .problem "store_error" fault.message⟩

def ofFault : ResolveFault → Response
  | .request fault => ofRequestFault fault
  | .source fault => ofSourceFault fault

/-- Nothing resolved is a success that grants nothing. -/
def ofOutcome (outcome : Except ResolveFault (Option Authorization)) (expanded : Bool) :
    Response :=
  match outcome with
  | .ok a => ⟨200, .grant (Grant.ofOption a expanded)⟩
  | .error fault => ofFault fault

def ofListing : Except SourceFault (List Authorization) → Response
  | .ok as => ⟨200, .listing (as.map (Grant.of · true))⟩
  | .error fault => ofSourceFault fault

end Response

end OrgAccess.Web
