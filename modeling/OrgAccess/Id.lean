import OrgAccess.Order
import OrgAccess.Text.Blank
import OrgAccess.Text.Decimal

/-! Identifiers of orgs, users, entities and memberships. Each is a 64-bit integer under a type
of its own, so an org is never looked up by the number of a user. A text names an identifier
when it is, but for blanks around it, the numeral of a positive number. -/

namespace OrgAccess

inductive IdKind where
  | org
  | user
  | entity
  | membership
  deriving DecidableEq

def IdKind.label : IdKind → String
  | .org => "OrgId"
  | .user => "UserId"
  | .entity => "EntityId"
  | .membership => "MembershipId"

/-- The identifier of one row of a kind. -/
@[ext]
structure Id (kind : IdKind) where
  value : Int64
  deriving DecidableEq

abbrev OrgId := Id .org
abbrev UserId := Id .user
abbrev EntityId := Id .entity
abbrev MembershipId := Id .membership

instance {kind : IdKind} : Ordered (Id kind) := Ordered.along Id.value Id.ext

/-- Why a text names no identifier. -/
inductive IdFault where
  | numeral (fault : Decimal.Fault)
  | notPositive (value : Int)
  deriving DecidableEq

namespace Id

variable {kind : IdKind}

def text (id : Id kind) : String := Decimal.ofInt id.value.toInt

/-- The least and the greatest value an identifier can hold, as magnitudes. -/
def least : Nat := 9223372036854775808

def greatest : Nat := 9223372036854775807

/-- The identifier whose value is this integer, if it is in range. -/
def ofInt? (n : Int) : Option (Id kind) :=
  if - Int.ofNat least ≤ n ∧ n ≤ Int.ofNat greatest then some ⟨Int64.ofInt n⟩ else none

/-- The identifier a text names. -/
def parse (s : String) : Except IdFault (Id kind) :=
  match Decimal.readInt least greatest (Text.trimBlanks s.toList) with
  | .error fault => .error (.numeral fault)
  | .ok n => if 0 < n then .ok ⟨Int64.ofInt n⟩ else .error (.notPositive n)

/-- The next identifier, unless this is the greatest. -/
def next? (id : Id kind) : Option (Id kind) := ofInt? (id.value.toInt + 1)

end Id

def IdFault.message (kind : IdKind) : IdFault → String
  | .numeral fault => kind.label ++ ": " ++ fault.message
  | .notPositive n => kind.label ++ ": must be positive, got " ++ Decimal.ofInt n

end OrgAccess
