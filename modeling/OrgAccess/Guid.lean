/-! GUIDs: 128-bit identifiers of principals, held as their thirty-two hexadecimal digits. They
are read in four written forms and always written in one: lower case, with hyphens. -/

namespace OrgAccess

@[ext]
structure Guid where
  digits : List (Fin 16)
  length_digits : digits.length = 32
  deriving DecidableEq

namespace Guid

def hexDigit? (c : Char) : Option (Fin 16) :=
  if '0' ≤ c ∧ c ≤ '9' then some (Fin.ofNat 16 (c.toNat - '0'.toNat))
  else if 'a' ≤ c ∧ c ≤ 'f' then some (Fin.ofNat 16 (c.toNat - 'a'.toNat + 10))
  else if 'A' ≤ c ∧ c ≤ 'F' then some (Fin.ofNat 16 (c.toNat - 'A'.toNat + 10))
  else none

def hexChar (d : Fin 16) : Char :=
  Char.ofNat (if d.val < 10 then '0'.toNat + d.val else 'a'.toNat + (d.val - 10))

def ofDigits? (ds : List (Fin 16)) : Option Guid :=
  if h : ds.length = 32 then some ⟨ds, h⟩ else none

/-- Thirty-two hexadecimal digits. -/
def ofHex? (cs : List Char) : Option Guid := (cs.mapM hexDigit?).bind ofDigits?

/-- Put hyphens after the eighth, twelfth, sixteenth and twentieth digit. -/
def hyphenate (cs : List Char) : List Char :=
  cs.take 8 ++ '-' :: (cs.drop 8).take 4 ++ '-' :: (cs.drop 12).take 4 ++
    '-' :: (cs.drop 16).take 4 ++ '-' :: cs.drop 20

/-- Digits in groups of eight, four, four, four and twelve, parted by hyphens. -/
def ofHyphenated? (cs : List Char) : Option Guid :=
  let bare := cs.take 8 ++ (cs.drop 9).take 4 ++ (cs.drop 14).take 4 ++ (cs.drop 19).take 4 ++
    cs.drop 24
  if hyphenate bare = cs then ofHex? bare else none

def urn : List Char := "urn:uuid:".toList

/-- Read a GUID: its digits alone, hyphenated, hyphenated in braces, or hyphenated after the
name of its URN space, in letters of either case. -/
def parse? (s : String) : Option Guid :=
  let cs := s.toList
  if cs.length = 32 then ofHex? cs
  else if cs.length = 36 then ofHyphenated? cs
  else if cs.head? = some '\x7b' ∧ cs.getLast? = some '\x7d' then
    ofHyphenated? (cs.drop 1).dropLast
  else if (cs.take urn.length).map Char.toLower = urn then ofHyphenated? (cs.drop urn.length)
  else none

def text (g : Guid) : String := String.ofList (hyphenate (g.digits.map hexChar))

/-- The version field. -/
def version (g : Guid) : Nat := (g.digits.getD 12 0).val

/-- The lowest `width` hexadecimal digits of a number, highest first. -/
def digitsOf : Nat → Nat → List (Fin 16)
  | 0, _ => []
  | width + 1, n => digitsOf width (n / 16) ++ [Fin.ofNat 16 n]

theorem length_digitsOf (width n : Nat) : (digitsOf width n).length = width := by
  induction width generalizing n with
  | zero => rfl
  | succ width ih => simp [digitsOf, ih]

/-- A fresh GUID of version 7: the milliseconds of its making, then random bits around the
version and the variant. -/
def timeOrdered (milliseconds random : Nat) : Guid where
  digits := digitsOf 12 milliseconds ++ 7 :: digitsOf 3 (random >>> 62) ++
    Fin.ofNat 16 (8 + (random >>> 60) % 4) :: digitsOf 15 random
  length_digits := by simp [length_digitsOf]

end Guid

end OrgAccess
