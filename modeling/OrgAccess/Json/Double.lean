/-! The range of doubles: floating point numbers of 64 bits, of which 53 hold the binary digits.
A decimal number is held as the product of two doubles, its digits and its power of ten, each
rounded by itself; it is in range if the product rounds to a finite double. -/

namespace OrgAccess.Json.Double

/-- Round to so many binary digits. What lies half way goes to the even neighbour. -/
def roundTo (width n : Nat) : Nat :=
  let shift := n.log2 + 1 - width
  let kept := n >>> shift
  let lost := n - kept <<< shift
  if 2 * lost < 1 <<< shift ∨ (2 * lost = 1 <<< shift ∧ kept % 2 = 0) then kept <<< shift
  else (kept + 1) <<< shift

/-- The least number that rounds to infinity. -/
def limit : Nat := Nat.pow 2 1024 - Nat.pow 2 970

/-- Digits times a power of ten are in range. A negative power never takes digits of 64 bits out
of it, and a power beyond 308 always does. -/
def inRange (digits : Nat) (power : Int) : Bool :=
  digits = 0 || power < 0 ||
    (power ≤ 308 && roundTo 53 digits * roundTo 53 (Nat.pow 10 power.toNat) < limit)

end OrgAccess.Json.Double
