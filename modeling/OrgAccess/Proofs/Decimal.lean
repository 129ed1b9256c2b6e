import Mathlib.Data.Nat.Digits.Lemmas
import OrgAccess.Proofs.Text
import OrgAccess.Text.Decimal

/-! Decimal numerals as a grammar. A numeral is an optional plus sign and at least one ASCII digit,
zeros in front included, and it is read just when its value is within the bound. Of all numerals of
a positive number one has neither a sign nor a zero in front, which is how the number is written. -/

namespace OrgAccess.Decimal

/-! ## Digits and their values -/

/-- The number that a digit stands for. -/
def digitOf (c : Char) : Nat := c.toNat - '0'.toNat

/-- The number that digits stand for, highest first. -/
def value (cs : List Char) : Nat := Nat.ofDigits 10 (cs.reverse.map digitOf)

theorem isDigit_iff (c : Char) : c.isDigit = true ↔ 48 ≤ c.toNat ∧ c.toNat ≤ 57 := by
  simp [Char.isDigit, UInt32.le_iff_toNat_le]

theorem digitOf_lt {c : Char} (h : c.isDigit = true) : digitOf c < 10 := by
  have hrange := (isDigit_iff c).1 h
  have hzero : '0'.toNat = 48 := rfl
  rw [digitOf]
  omega

theorem digit?_eq (c : Char) : digit? c = if c.isDigit then some (digitOf c) else none := by
  simp [digit?, digitOf, Char.isDigit, Char.le_def]

theorem value_cons (c : Char) (cs : List Char) :
    value (c :: cs) = digitOf c * 10 ^ cs.length + value cs := by
  rw [value, List.reverse_cons, List.map_append, Nat.ofDigits_append, List.map_singleton,
    Nat.ofDigits_singleton, List.length_map, List.length_reverse, value]
  ring

/-- Digits are read onto a number just when the number with all of them is within the bound. -/
theorem readDigits_eq_ok_iff {bound : Nat} {past : Fault} {cs : List Char} {n m : Nat}
    (hn : n ≤ bound) : readDigits bound past cs n = .ok m ↔
      (∀ c ∈ cs, c.isDigit = true) ∧ m = n * 10 ^ cs.length + value cs ∧ m ≤ bound := by
  induction cs generalizing n with
  | nil =>
    have hvalue : value [] = 0 := rfl
    simp only [readDigits, Except.ok.injEq, List.not_mem_nil, false_implies, implies_true, true_and,
      List.length_nil, pow_zero, mul_one, hvalue, add_zero]
    constructor
    · rintro rfl
      exact ⟨rfl, hn⟩
    · rintro ⟨rfl, _⟩
      rfl
  | cons c cs ih =>
    have hsum : n * 10 ^ (c :: cs).length + value (c :: cs) =
        (10 * n + digitOf c) * 10 ^ cs.length + value cs := by
      rw [value_cons, List.length_cons]
      ring
    rw [readDigits, digit?_eq, hsum, List.forall_mem_cons]
    by_cases hc : c.isDigit = true
    · simp only [hc, if_true, true_and]
      split
      · rename_i hle
        exact ih hle
      · rename_i hgt
        have hgrows : 10 * n + digitOf c ≤ (10 * n + digitOf c) * 10 ^ cs.length :=
          Nat.le_mul_of_pos_right _ (Nat.pow_pos (by decide))
        constructor
        · intro hread
          cases hread
        · rintro ⟨_, rfl, hle⟩
          omega
    · simp [hc]

/-! ## Numerals -/

/-- An optional plus sign and at least one digit, with their value. -/
inductive Numeral : List Char → Nat → Prop where
  | plain {cs : List Char} (nonempty : cs ≠ []) (digits : ∀ c ∈ cs, c.isDigit = true) :
      Numeral cs (value cs)
  | plus {cs : List Char} (nonempty : cs ≠ []) (digits : ∀ c ∈ cs, c.isDigit = true) :
      Numeral ('+' :: cs) (value cs)

/-- Digits that are read from the start are a numeral without a sign. -/
theorem readDigits_zero_eq_ok_iff {bound : Nat} {past : Fault} {cs : List Char} {m : Nat} :
    readDigits bound past cs 0 = .ok m ↔
      (∀ c ∈ cs, c.isDigit = true) ∧ m = value cs ∧ m ≤ bound := by
  rw [readDigits_eq_ok_iff (Nat.zero_le bound), Nat.zero_mul, Nat.zero_add]

theorem readNat_plus {cs : List Char} (h : cs ≠ []) (most : Nat) :
    readNat most ('+' :: cs) = readDigits most .tooLarge cs 0 := by
  cases cs with
  | nil => exact absurd rfl h
  | cons c cs => rfl

theorem readNat_cons {c : Char} (h : c ≠ '+') (most : Nat) (cs : List Char) :
    readNat most (c :: cs) = readDigits most .tooLarge (c :: cs) 0 := by
  rw [readNat.eq_def]
  split <;> simp_all

/-- A text without a minus sign is read as an integer just as it is read as a natural number. -/
theorem readInt_cons {c : Char} (h : c ≠ '-') (least most : Nat) (cs : List Char) :
    readInt least most (c :: cs) = (readNat most (c :: cs)).map Int.ofNat := by
  by_cases hplus : c = '+'
  · subst hplus
    cases cs <;> rfl
  · rw [readNat_cons hplus, readInt.eq_def]
    split <;> simp_all

/-- Nothing with a minus sign is read as a positive number. -/
theorem nonpos_of_readInt_minus {least most : Nat} {cs : List Char} {z : Int}
    (h : readInt least most ('-' :: cs) = .ok z) : z ≤ 0 := by
  cases cs with
  | nil => cases h
  | cons c cs =>
    have hread : readInt least most ('-' :: c :: cs) =
        (readDigits least .tooSmall (c :: cs) 0).map fun n => - Int.ofNat n := rfl
    rw [hread] at h
    cases hdigits : readDigits least .tooSmall (c :: cs) 0 with
    | error fault =>
      rw [hdigits] at h
      cases h
    | ok n =>
      rw [hdigits] at h
      cases h
      exact Int.neg_nonpos_of_nonneg (Int.natCast_nonneg n)

theorem readNat_eq_ok_iff (most : Nat) (cs : List Char) (n : Nat) :
    readNat most cs = .ok n ↔ Numeral cs n ∧ n ≤ most := by
  constructor
  · intro h
    cases cs with
    | nil => cases h
    | cons c cs =>
      by_cases hplus : c = '+'
      · subst hplus
        have hnonempty : cs ≠ [] := by
          rintro rfl
          cases h
        rw [readNat_plus hnonempty] at h
        obtain ⟨digits, rfl, hmost⟩ := readDigits_zero_eq_ok_iff.1 h
        exact ⟨.plus hnonempty digits, hmost⟩
      · rw [readNat_cons hplus] at h
        obtain ⟨digits, rfl, hmost⟩ := readDigits_zero_eq_ok_iff.1 h
        exact ⟨.plain (List.cons_ne_nil c cs) digits, hmost⟩
  · rintro ⟨⟨nonempty, digits⟩ | ⟨nonempty, digits⟩, hmost⟩
    · obtain ⟨c, cs, rfl⟩ := List.exists_cons_of_ne_nil nonempty
      have hplus : c ≠ '+' := by
        rintro rfl
        exact absurd (digits '+' (by simp)) (by decide)
      rw [readNat_cons hplus]
      exact readDigits_zero_eq_ok_iff.2 ⟨digits, rfl, hmost⟩
    · rw [readNat_plus nonempty]
      exact readDigits_zero_eq_ok_iff.2 ⟨digits, rfl, hmost⟩

theorem not_numeral_minus (cs : List Char) (n : Nat) : ¬ Numeral ('-' :: cs) n := by
  rintro ⟨_, digits⟩
  exact absurd (digits '-' (by simp)) (by decide)

/-- A numeral has nothing but digits, and a plus sign in front at most. -/
theorem Numeral.isDigit_of_mem {cs : List Char} {n : Nat} (h : Numeral cs n) {c : Char}
    (hc : c ∈ cs) (hplus : c ≠ '+') : c.isDigit = true := by
  cases h with
  | plain _ digits => exact digits c hc
  | plus _ digits => exact digits c ((List.mem_cons.1 hc).resolve_left hplus)

/-- A numeral has one value. -/
theorem Numeral.unique {cs : List Char} {n m : Nat} (h : Numeral cs n) (k : Numeral cs m) :
    n = m := by
  have hn := (readNat_eq_ok_iff (max n m) cs n).2 ⟨h, Nat.le_max_left n m⟩
  have hm := (readNat_eq_ok_iff (max n m) cs m).2 ⟨k, Nat.le_max_right n m⟩
  exact Except.ok.inj (hn.symm.trans hm)

/-- The positive integers that are read are the positive values of numerals within the bound. -/
theorem readInt_eq_ok_iff_of_pos {least most n : Nat} (hn : 0 < n) (cs : List Char) :
    readInt least most cs = .ok (n : Int) ↔ Numeral cs n ∧ n ≤ most := by
  cases cs with
  | nil =>
    refine iff_of_false nofun ?_
    rintro ⟨⟨nonempty, _⟩, _⟩
    exact nonempty rfl
  | cons c cs =>
    by_cases hminus : c = '-'
    · subst hminus
      refine iff_of_false ?_ fun h => not_numeral_minus cs n h.1
      intro h
      have hnonpos := nonpos_of_readInt_minus h
      omega
    · rw [readInt_cons hminus, ← readNat_eq_ok_iff]
      cases readNat most (c :: cs) <;> simp [Except.map]

/-- The text is a numeral of the number, but for blanks around it, and the number is positive and
not above the greatest one. -/
def Spells (most : Nat) (s : String) (n : Nat) : Prop :=
  ∃ t, Text.Trims s t ∧ Numeral t.toList n ∧ 1 ≤ n ∧ n ≤ most

theorem spells_iff (most : Nat) (s : String) (n : Nat) : Spells most s n ↔
    0 < n ∧ Numeral (Text.trimBlanks s.toList) n ∧ n ≤ most := by
  rw [← Text.toList_trim]
  constructor
  · rintro ⟨t, htrims, hnumeral, hpos, hle⟩
    rw [(Text.trims_iff s t).1 htrims]
    exact ⟨hpos, hnumeral, hle⟩
  · rintro ⟨hpos, hnumeral, hle⟩
    exact ⟨Text.trim s, (Text.trims_iff s _).2 rfl, hnumeral, hpos, hle⟩

/-! ## Numbers as they are written -/

theorem value_natDigits (n : Nat) : value (natDigits n) = n := by
  have hread : readDigits n .tooLarge (natDigits n) 0 = .ok n :=
    readDigits_natDigits n (Nat.le_refl n)
  exact (readDigits_zero_eq_ok_iff.1 hread).2.1.symm

theorem isDigit_of_mem_natDigits {n : Nat} {c : Char} (h : c ∈ natDigits n) : c.isDigit = true := by
  have hread : readDigits n .tooLarge (natDigits n) 0 = .ok n :=
    readDigits_natDigits n (Nat.le_refl n)
  exact (readDigits_zero_eq_ok_iff.1 hread).1 c h

theorem natDigits_ne_nil (n : Nat) : natDigits n ≠ [] := by
  rw [natDigits]
  split <;> simp

theorem toNat_digitChar {d : Nat} (h : d < 10) : (digitChar d).toNat = 48 + d := by
  have hvalid : ('0'.toNat + d).isValidChar := by
    have hzero : '0'.toNat = 48 := rfl
    exact Or.inl (by omega)
  rw [digitChar, Char.ofNat, dif_pos hvalid]
  rfl

theorem digitChar_digitOf {c : Char} (h : c.isDigit = true) : digitChar (digitOf c) = c := by
  have hrange := (isDigit_iff c).1 h
  have hzero : '0'.toNat = 48 := rfl
  rw [← Char.toNat_inj, toNat_digitChar (digitOf_lt h), digitOf]
  omega

theorem natDigits_eq_map_digits {n : Nat} (h : 0 < n) :
    natDigits n = (Nat.digits 10 n).reverse.map digitChar := by
  induction n using Nat.strongRecOn with
  | ind n ih =>
    rw [natDigits, Nat.digits_def' (by decide) h]
    split
    · rename_i hn
      simp [Nat.mod_eq_of_lt hn, Nat.div_eq_of_lt hn]
    · rw [ih (n / 10) (by omega) (by omega)]
      simp

/-- Digits that begin with no zero are how their value is written. -/
theorem natDigits_value {cs : List Char} (nonempty : cs ≠ []) (digits : ∀ c ∈ cs, c.isDigit = true)
    (hzero : cs.head? ≠ some '0') : natDigits (value cs) = cs := by
  have hlowest : Nat.digits 10 (value cs) = cs.reverse.map digitOf := by
    refine Nat.digits_ofDigits 10 (by decide) _ ?_ ?_
    · simpa using fun c hc => digitOf_lt (digits c hc)
    · obtain ⟨c, cs, rfl⟩ := List.exists_cons_of_ne_nil nonempty
      have hfirst : digitOf c ≠ 0 := by
        intro hdigit
        have hc := digitChar_digitOf (digits c (by simp))
        rw [hdigit] at hc
        exact hzero (congrArg some hc.symm)
      simpa using hfirst
  have hpos : 0 < value cs := by
    by_contra hnot
    rw [Nat.eq_zero_of_not_pos hnot, Nat.digits_zero] at hlowest
    exact nonempty (by simpa using hlowest.symm)
  rw [natDigits_eq_map_digits hpos, hlowest]
  calc ((cs.reverse.map digitOf).reverse.map digitChar)
      = cs.map fun c => digitChar (digitOf c) := by simp
    _ = cs.map id := List.map_congr_left fun c hc => digitChar_digitOf (digits c hc)
    _ = cs := List.map_id cs

theorem numeral_natDigits (n : Nat) : Numeral (natDigits n) n := by
  have hplain := Numeral.plain (natDigits_ne_nil n) fun _ hc => isDigit_of_mem_natDigits hc
  rwa [value_natDigits] at hplain

/-- Positive numbers are written without a zero in front. -/
theorem head?_natDigits_ne {n : Nat} (h : 0 < n) : (natDigits n).head? ≠ some '0' := by
  have hne : Nat.digits 10 n ≠ [] := Nat.digits_ne_nil_iff_ne_zero.2 h.ne'
  have hlt : (Nat.digits 10 n).getLast hne < 10 :=
    Nat.digits_lt_base (by decide) (List.getLast_mem hne)
  rw [natDigits_eq_map_digits h, List.head?_map, List.head?_reverse,
    List.getLast?_eq_some_getLast hne, Option.map_some]
  intro hhead
  have hzero := congrArg Char.toNat (Option.some.inj hhead)
  rw [toNat_digitChar hlt] at hzero
  exact Nat.getLast_digit_ne_zero 10 h.ne' (Nat.add_left_cancel hzero)

end OrgAccess.Decimal
