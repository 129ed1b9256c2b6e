import OrgAccess.Authorization
import OrgAccess.Claims

/-! A request may be malformed whatever the store holds. One that is not is an inquiry: it says
which rows are to be looked for, or which org. -/

namespace OrgAccess

/-- A question about authorization as it arrives, where each part may be missing. -/
structure Request where
  principal : Option Principal := none
  target : Option Target := none
  corpType : Option String := none
  deriving DecidableEq

namespace Request

def of (principal : Principal) (target : Target) : Request := ⟨some principal, some target, none⟩

def withCorpType (r : Request) (corpType : String) : Request := { r with corpType := some corpType }

end Request

/-- A supplied value that cannot be used. -/
inductive InputFault where
  | blankCorpType
  | blankProductCode
  | domain (fault : DomainFault)
  deriving DecidableEq

def InputFault.message : InputFault → String
  | .blankCorpType => "corp type must not be blank"
  | .blankProductCode => "product code must not be blank"
  | .domain fault => fault.message

/-- Why a request is malformed. -/
inductive RequestFault where
  | missingIdentity
  | missingTarget
  | invalidInput (fault : InputFault)
  deriving DecidableEq

def RequestFault.ofDomain : DomainFault → RequestFault
  | .unauthorized => .missingIdentity
  | fault => .invalidInput (.domain fault)

/-- What to look for: the winning row, the winning row but with the role of staff, or an org. -/
inductive Inquiry where
  | winner (filter : Filter)
  | staffWinner (filter : Filter)
  | staffOrg (org : OrgId)
  deriving DecidableEq

namespace Inquiry

def corpType (s : String) : Except RequestFault String :=
  match Text.nonBlank? s with
  | some corpType => .ok corpType
  | none => .error (.invalidInput .blankCorpType)

def productCode (s : String) : Except RequestFault String :=
  match Text.nonBlank? s with
  | some product => .ok product
  | none => .error (.invalidInput .blankProductCode)

/-- A blank identifier names no business, so the target is missing. -/
def businessIdentifier (s : String) : Except RequestFault String :=
  match Text.nonBlank? s with
  | some identifier => .ok identifier
  | none => .error .missingTarget

def userInOrg (guid : Guid) (org : OrgId) : Inquiry :=
  .winner { guid := some guid, orgId := some org }

def userInOrgOfType (guid : Guid) (org : OrgId) (s : String) : Except RequestFault Inquiry := do
  let corpType ← corpType s
  return .winner { guid := some guid, orgId := some org, corpType := some corpType }

def userInBusiness (guid : Guid) (s : String) : Except RequestFault Inquiry := do
  let identifier ← businessIdentifier s
  return .winner { guid := some guid, businessIdentifier := some identifier }

def productInOrg (org : OrgId) (product : String) (type : Option String) :
    Except RequestFault Inquiry := do
  let product ← productCode product
  match type with
  | none => return .winner { orgId := some org, productCode := some product }
  | some s =>
    let corpType ← corpType s
    return .winner
      { orgId := some org, productCode := some product, corpType := some corpType }

def productInBusiness (s product : String) : Except RequestFault Inquiry := do
  let identifier ← businessIdentifier s
  let product ← productCode product
  return .winner { businessIdentifier := some identifier, productCode := some product }

def staffOn : Target → Except RequestFault Inquiry
  | .org org => .ok (.staffOrg org)
  | .business s => do
    let identifier ← businessIdentifier s
    return .staffWinner { businessIdentifier := some identifier }

/-- What a principal asks about a target. The corp type matters only to users and service
accounts that ask about an org. -/
def about (type : Option String) : Principal → Target → Except RequestFault Inquiry
  | .user guid, .org org =>
    match type with
    | none => .ok (userInOrg guid org)
    | some s => userInOrgOfType guid org s
  | .user guid, .business s => userInBusiness guid s
  | .serviceAccount _ product, .org org => productInOrg org product type
  | .serviceAccount _ product, .business s => productInBusiness s product
  | .staff _, target => staffOn target

end Inquiry

/-- The inquiry that a request makes, unless it is malformed. -/
def Request.inquiry (r : Request) : Except RequestFault Inquiry :=
  match r.principal, r.target with
  | none, _ => .error .missingIdentity
  | some _, none => .error .missingTarget
  | some principal, some target => Inquiry.about r.corpType principal target

end OrgAccess
