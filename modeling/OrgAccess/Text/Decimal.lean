/-! Decimal numerals: what an integer is written as, and how one with an optional sign is read
back within bounds. A numeral that breaks two rules is refused for the leftmost fault. -/

namespace OrgAccess.Decimal

/-- Why a text is no integer within the bounds. -/
inductive Fault where
  | empty
  | badDigit
  | tooLarge
  | tooSmall
  deriving DecidableEq

def Fault.message : Fault → String
  | .empty => "cannot parse integer from empty string"
  | .badDigit => "invalid digit found in string"
  | .tooLarge => "number too large to fit in target type"
  | .tooSmall => "number too small to fit in target type"

/-- The value of an ASCII digit. -/
def digit? (c : Char) : Option Nat :=
  if '0' ≤ c ∧ c ≤ '9' then some (c.toNat - '0'.toNat) else none

/-- Read digits onto `n`, up to `bound`; past it the numeral is refused with `past`. -/
def readDigits (bound : Nat) (past : Fault) : List Char → Nat → Except Fault Nat
  | [], n => .ok n
  | c :: cs, n =>
    match digit? c with
    | none => .error .badDigit
    | some d => if 10 * n + d ≤ bound then readDigits bound past cs (10 * n + d) else .error past

/-- Read an integer from `-least` to `most`: an optional sign and at least one digit. -/
def readInt (least most : Nat) : List Char → Except Fault Int
  | [] => .error .empty
  | ['+'] => .error .badDigit
  | ['-'] => .error .badDigit
  | '+' :: cs => (readDigits most .tooLarge cs 0).map Int.ofNat
  | '-' :: cs => (readDigits least .tooSmall cs 0).map (fun n => - Int.ofNat n)
  | cs => (readDigits most .tooLarge cs 0).map Int.ofNat

/-- Read a natural number up to `most`: an optional plus sign and at least one digit. -/
def readNat (most : Nat) : List Char → Except Fault Nat
  | [] => .error .empty
  | ['+'] => .error .badDigit
  | '+' :: cs => readDigits most .tooLarge cs 0
  | cs => readDigits most .tooLarge cs 0

def digitChar (d : Nat) : Char := Char.ofNat ('0'.toNat + d)

/-- The digits of a number, without leading zeros. -/
def natDigits (n : Nat) : List Char :=
  if n < 10 then [digitChar n] else natDigits (n / 10) ++ [digitChar (n % 10)]

def intChars : Int → List Char
  | .ofNat n => natDigits n
  | .negSucc n => '-' :: natDigits (n + 1)

/-- The text of an integer. -/
def ofInt (n : Int) : String := String.ofList (intChars n)

private theorem digit?_digitChar {d : Nat} (h : d < 10) : digit? (digitChar d) = some d := by
  have : d = 0 ∨ d = 1 ∨ d = 2 ∨ d = 3 ∨ d = 4 ∨ d = 5 ∨ d = 6 ∨ d = 7 ∨ d = 8 ∨ d = 9 := by
    omega
  rcases this with rfl | rfl | rfl | rfl | rfl | rfl | rfl | rfl | rfl | rfl <;> decide

theorem readDigits_append {bound : Nat} {past : Fault} {cs ds : List Char} {n m : Nat}
    (h : readDigits bound past cs n = .ok m) :
    readDigits bound past (cs ++ ds) n = readDigits bound past ds m := by
  induction cs generalizing n with
  | nil =>
    cases h
    rfl
  | cons c cs ih =>
    rw [List.cons_append, readDigits]
    rw [readDigits] at h
    split at h
    · cases h
    · split at h
      · next hle => simp only [hle, if_true, ih h]
      · cases h

/-- The digits of a number within the bound are read back. -/
theorem readDigits_natDigits {bound : Nat} {past : Fault} (n : Nat) (h : n ≤ bound) :
    readDigits bound past (natDigits n) 0 = .ok n := by
  induction n using Nat.strongRecOn with
  | ind n ih =>
    rw [natDigits]
    split
    · next hn => simp [readDigits, digit?_digitChar hn, h]
    · next hn =>
      rw [readDigits_append (ih (n / 10) (by omega) (by omega))]
      have hd : n % 10 < 10 := by omega
      have he : 10 * (n / 10) + n % 10 = n := by omega
      simp [readDigits, digit?_digitChar hd, he, h]

end OrgAccess.Decimal
