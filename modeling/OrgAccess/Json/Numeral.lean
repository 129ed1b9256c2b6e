import OrgAccess.Json.Double
import OrgAccess.Text.Decimal

/-! The numerals of JSON. One without fraction and exponent is an integer, except for minus zero,
which only a floating point number can hold. -/

namespace OrgAccess.Json

/-- A number as it is written: sign, digits, and the optional parts after the point and after
the letter e. -/
structure Numeral where
  negative : Bool
  whole : Nat
  fraction : List Nat
  exponent : Option Int
  deriving DecidableEq

namespace Numeral

def ofInt (n : Int) : Numeral := ⟨n < 0, n.natAbs, [], none⟩

def toInt? (n : Numeral) : Option Int :=
  if n.fraction = [] ∧ n.exponent = none then
    if n.negative then (if n.whole = 0 then none else some (- Int.ofNat n.whole))
    else some (Int.ofNat n.whole)
  else none

/-- Digits count as long as the number they spell fits 64 bits. -/
def maxDigits : Nat := 18446744073709551615

/-- The leading digits of a number that count, and how many follow that do not. -/
def leadingDigits (n : Nat) : Nat × Nat :=
  if maxDigits < n then
    match leadingDigits (n / 10) with
    | (kept, dropped) => (kept, dropped + 1)
  else (n, 0)
decreasing_by exact Nat.div_lt_self (Nat.zero_lt_of_lt (by assumption)) (by decide)

/-- The digits that count when those of a fraction are added, and how many were added. -/
def appendDigits : Nat → List Nat → Nat × Nat
  | n, [] => (n, 0)
  | n, d :: ds =>
    if 10 * n + d ≤ maxDigits then
      match appendDigits (10 * n + d) ds with
      | (kept, added) => (kept, added + 1)
    else (n, 0)

/-- The digits that count, times a power of ten, are in the range of doubles. Digits before the
point that do not count still raise the power. -/
def fitsDouble (n : Numeral) : Bool :=
  let (whole, dropped) := leadingDigits n.whole
  let (digits, added) := appendDigits whole n.fraction
  Double.inRange digits (n.exponent.getD 0 + dropped - added)

def digit? (b : UInt8) : Option Nat :=
  if '0'.toUInt8 ≤ b ∧ b ≤ '9'.toUInt8 then some (b.toNat - '0'.toNat) else none

/-- The digits at the front, and what follows them. -/
def takeDigits : List UInt8 → List Nat × List UInt8
  | [] => ([], [])
  | b :: bs =>
    match digit? b with
    | none => ([], b :: bs)
    | some d => (d :: (takeDigits bs).1, (takeDigits bs).2)

def valueOf (ds : List Nat) : Nat := ds.foldl (fun a d => 10 * a + d) 0

/-- The part after a point: at least one digit. -/
def takeFraction : List UInt8 → Option (List Nat × List UInt8)
  | [] => some ([], [])
  | b :: bs =>
    if b = '.'.toUInt8 then
      if (takeDigits bs).1 = [] then none else some (takeDigits bs)
    else some ([], b :: bs)

/-- An optional sign. -/
def takeSign : List UInt8 → Bool × List UInt8
  | [] => (false, [])
  | b :: bs =>
    if b = '-'.toUInt8 then (true, bs)
    else if b = '+'.toUInt8 then (false, bs)
    else (false, b :: bs)

def signed (negative : Bool) (n : Nat) : Int := if negative then - Int.ofNat n else Int.ofNat n

/-- The part after the letter e: an optional sign and at least one digit. -/
def takeExponent : List UInt8 → Option (Option Int × List UInt8)
  | [] => some (none, [])
  | b :: bs =>
    if b = 'e'.toUInt8 ∨ b = 'E'.toUInt8 then
      match takeDigits (takeSign bs).2 with
      | ([], _) => none
      | (ds, rest) => some (some (signed (takeSign bs).1 (valueOf ds)), rest)
    else some (none, b :: bs)

/-- Digits, a fraction and an exponent. Only zero itself begins with a zero. -/
def takeUnsigned (negative : Bool) (bs : List UInt8) : Option (Numeral × List UInt8) :=
  match takeDigits bs with
  | ([], _) => none
  | (0 :: _ :: _, _) => none
  | (ds, rest) => do
    let (fraction, rest) ← takeFraction rest
    let (exponent, rest) ← takeExponent rest
    return (⟨negative, valueOf ds, fraction, exponent⟩, rest)

/-- The numeral at the front, and what follows it. -/
def take : List UInt8 → Option (Numeral × List UInt8)
  | [] => none
  | b :: bs => if b = '-'.toUInt8 then takeUnsigned true bs else takeUnsigned false (b :: bs)

theorem length_takeDigits (bs : List UInt8) :
    (takeDigits bs).1.length + (takeDigits bs).2.length = bs.length := by
  induction bs with
  | nil => rfl
  | cons b bs ih =>
    rw [takeDigits]
    split
    · simp
    · simp only [List.length_cons]
      omega

private theorem length_takeFraction {bs rest : List UInt8} {ds : List Nat}
    (h : takeFraction bs = some (ds, rest)) : rest.length ≤ bs.length := by
  cases bs with
  | nil => simp_all [takeFraction]
  | cons b bs =>
    have hl := length_takeDigits bs
    rw [takeFraction] at h
    split at h
    · split at h
      · simp at h
      · simp only [Option.some.injEq] at h
        simp only [h, List.length_cons] at hl ⊢
        omega
    · simp_all

private theorem length_takeSign (bs : List UInt8) : (takeSign bs).2.length ≤ bs.length := by
  cases bs with
  | nil => simp [takeSign]
  | cons b bs =>
    rw [takeSign]
    split
    · simp
    · split <;> simp

private theorem length_takeExponent {bs rest : List UInt8} {e : Option Int}
    (h : takeExponent bs = some (e, rest)) : rest.length ≤ bs.length := by
  cases bs with
  | nil => simp_all [takeExponent]
  | cons b bs =>
    have hs := length_takeSign bs
    have hd := length_takeDigits (takeSign bs).2
    rw [takeExponent] at h
    split at h
    · split at h
      · simp at h
      · next ds r _ hr =>
        simp only [Option.some.injEq, Prod.mk.injEq] at h
        simp only [hr] at hd
        simp only [← h.2, List.length_cons]
        omega
    · simp_all

private theorem length_takeUnsigned {negative : Bool} {bs rest : List UInt8} {n : Numeral}
    (h : takeUnsigned negative bs = some (n, rest)) : rest.length < bs.length := by
  have hd := length_takeDigits bs
  rw [takeUnsigned] at h
  split at h
  · simp at h
  · simp at h
  · next ds r hne _ hr =>
    rw [hr] at hd
    simp only [Option.bind_eq_bind, Option.pure_def, Option.bind_eq_some_iff, Prod.exists] at h
    obtain ⟨f, r1, hf, e, r2, he, h⟩ := h
    have h1 := length_takeFraction hf
    have h2 := length_takeExponent he
    simp only [Option.some.injEq, Prod.mk.injEq] at h
    cases ds with
    | nil => exact (hne rfl).elim
    | cons d ds =>
      simp only [List.length_cons] at hd
      rw [← h.2]
      omega

/-- A numeral takes up at least one byte. -/
theorem length_take {bs rest : List UInt8} {n : Numeral} (h : take bs = some (n, rest)) :
    rest.length < bs.length := by
  cases bs with
  | nil => simp [take] at h
  | cons b bs =>
    rw [take] at h
    split at h
    · exact Nat.lt_succ_of_lt (length_takeUnsigned h)
    · exact length_takeUnsigned h

def digitByte (d : Nat) : UInt8 := (Decimal.digitChar d).toUInt8

def natBytes (n : Nat) : List UInt8 := (Decimal.natDigits n).map Char.toUInt8

/-- The written form. -/
def bytes (n : Numeral) : List UInt8 :=
  (if n.negative then ['-'.toUInt8] else []) ++ natBytes n.whole ++
    (if n.fraction = [] then [] else '.'.toUInt8 :: n.fraction.map digitByte) ++
    match n.exponent with
    | none => []
    | some e => 'e'.toUInt8 :: (Decimal.intChars e).map Char.toUInt8

end Numeral

end OrgAccess.Json
