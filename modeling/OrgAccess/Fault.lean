import OrgAccess.Id

/-! What can be wrong with a value of the domain: it breaks a rule, names no identifier, names
something that is not there, or comes without an identity. Faults of storage are no concern of
this module. -/

namespace OrgAccess

inductive DomainFault where
  | invalid (reason : String)
  | badId (reason : String)
  | notFound
  | unauthorized
  deriving DecidableEq

def DomainFault.message : DomainFault → String
  | .invalid reason => "validation failed: " ++ reason
  | .badId reason => "invalid identifier: " ++ reason
  | .notFound => "not found"
  | .unauthorized => "unauthorized"

/-- The fault of a text that names no identifier of a kind. -/
def IdFault.asDomainFault (kind : IdKind) (fault : IdFault) : DomainFault :=
  .badId (fault.message kind)

end OrgAccess
