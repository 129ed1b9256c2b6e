import OrgAccess.Text.Utf8

/-! Percent encoding: a percent sign and two hexadecimal digits stand for a byte. A percent sign
that no such digits follow stands for itself. In forms a plus sign stands for a space. -/

namespace OrgAccess.Web.Percent

def hexDigit? (b : UInt8) : Option Nat :=
  if '0'.toUInt8 ≤ b ∧ b ≤ '9'.toUInt8 then some (b.toNat - '0'.toNat)
  else if 'a'.toUInt8 ≤ b ∧ b ≤ 'f'.toUInt8 then some (b.toNat - 'a'.toNat + 10)
  else if 'A'.toUInt8 ≤ b ∧ b ≤ 'F'.toUInt8 then some (b.toNat - 'A'.toNat + 10)
  else none

/-- The byte that two hexadecimal digits name. -/
def named? : List UInt8 → Option UInt8
  | h :: l :: _ => do return UInt8.ofNat (16 * (← hexDigit? h) + (← hexDigit? l))
  | _ => none

def decode : List UInt8 → List UInt8
  | [] => []
  | b :: bs =>
    if b = '%'.toUInt8 then
      match named? bs with
      | some c => c :: decode (bs.drop 2)
      | none => b :: decode bs
    else b :: decode bs
termination_by bs => bs.length

/-- The text that a part of a path stands for. -/
def text? (s : String) : Option String := Text.ofUtf8? (decode (Text.toUtf8 s))

def spaced (b : UInt8) : UInt8 := if b = '+'.toUInt8 then ' '.toUInt8 else b

/-- The text that a name or value of a form stands for. -/
def formText? (s : String) : Option String :=
  Text.ofUtf8? (decode ((Text.toUtf8 s).map spaced))

end OrgAccess.Web.Percent
