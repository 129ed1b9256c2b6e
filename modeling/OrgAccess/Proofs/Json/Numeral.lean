import OrgAccess.Json.Numeral

/-! Integers as numerals of JSON. What an integer is written as is read back as the same numeral,
whatever follows it, as long as that does not go on with the numeral. -/

namespace OrgAccess

namespace Decimal

/-- The digits of a number, highest first. -/
def digits (n : Nat) : List Nat := if n < 10 then [n] else digits (n / 10) ++ [n % 10]

theorem natDigits_eq_map (n : Nat) : natDigits n = (digits n).map digitChar := by
  induction n using Nat.strongRecOn with
  | ind n ih =>
    rw [natDigits, digits]
    split
    · rfl
    · rw [ih (n / 10) (by omega), List.map_append]
      rfl

theorem lt_of_mem_digits {n d : Nat} (h : d ∈ digits n) : d < 10 := by
  induction n using Nat.strongRecOn with
  | ind n ih =>
    rw [digits] at h
    split at h
    · rw [List.mem_singleton.1 h]
      assumption
    · rcases List.mem_append.1 h with h | h
      · exact ih (n / 10) (by omega) h
      · rw [List.mem_singleton.1 h]
        omega

/-- Only zero begins with a zero: the number without its last digit is not zero. -/
theorem digits_eq_cons (n : Nat) : ∃ d ds, digits n = d :: ds ∧ (d = 0 → ds = []) := by
  induction n using Nat.strongRecOn with
  | ind n ih =>
    rw [digits]
    split
    · exact ⟨n, [], rfl, fun _ => rfl⟩
    · obtain ⟨d, ds, hds, hzero⟩ := ih (n / 10) (by omega)
      refine ⟨d, ds ++ [n % 10], by rw [hds, List.cons_append], ?_⟩
      intro hd
      rw [hzero hd, hd, digits] at hds
      split at hds
      · have hn : n / 10 = 0 := (List.cons.inj hds).1
        omega
      · have hlen := congrArg List.length hds
        have hpos : 0 < (digits (n / 10 / 10)).length := by
          obtain ⟨e, es, hes, _⟩ := ih (n / 10 / 10) (by omega)
          simp [hes]
        simp only [List.length_append, List.length_singleton] at hlen
        omega

end Decimal

namespace Json.Numeral

theorem toInt?_ofInt (n : Int) : (ofInt n).toInt? = some n := by
  cases n with
  | ofNat n => rfl
  | negSucc n =>
    have hneg : decide (Int.negSucc n < 0) = true := decide_eq_true (Int.negSucc_lt_zero n)
    simp only [toInt?, ofInt, hneg, and_self, if_true, Int.natAbs_negSucc, Nat.succ_ne_zero,
      if_false]
    rfl

theorem valueOf_digits (n : Nat) : valueOf (Decimal.digits n) = n := by
  induction n using Nat.strongRecOn with
  | ind n ih =>
    rw [Decimal.digits]
    split
    · simp [valueOf]
    · have hprefix := ih (n / 10) (by omega)
      rw [valueOf] at hprefix ⊢
      rw [List.foldl_append, hprefix]
      show 10 * (n / 10) + n % 10 = n
      omega

/-- What follows does not go on with a numeral. -/
def Stops (rest : List UInt8) : Prop :=
  ∀ b ∈ rest.head?, digit? b = none ∧ b ≠ '.'.toUInt8 ∧ b ≠ 'e'.toUInt8 ∧ b ≠ 'E'.toUInt8

theorem digit?_digitByte : ∀ d < 10, digit? (digitByte d) = some d := by decide

theorem natBytes_eq_map (n : Nat) : natBytes n = (Decimal.digits n).map digitByte := by
  rw [natBytes, Decimal.natDigits_eq_map, List.map_map]
  rfl

theorem takeDigits_of_stops {rest : List UInt8} (h : Stops rest) :
    takeDigits rest = ([], rest) := by
  cases rest with
  | nil => rfl
  | cons b rest => rw [takeDigits, (h b rfl).1]

/-- Digits are taken up to where they stop. -/
theorem takeDigits_append {ds : List Nat} (hds : ∀ d ∈ ds, d < 10) {rest : List UInt8}
    (h : Stops rest) : takeDigits (ds.map digitByte ++ rest) = (ds, rest) := by
  induction ds with
  | nil => exact takeDigits_of_stops h
  | cons d ds ih =>
    have hrest := ih fun e he => hds e (List.mem_cons_of_mem d he)
    rw [List.map_cons, List.cons_append, takeDigits, digit?_digitByte d (hds d List.mem_cons_self),
      hrest]

theorem takeFraction_of_stops {rest : List UInt8} (h : Stops rest) :
    takeFraction rest = some ([], rest) := by
  cases rest with
  | nil => rfl
  | cons b rest => rw [takeFraction, if_neg (h b rfl).2.1]

theorem takeExponent_of_stops {rest : List UInt8} (h : Stops rest) :
    takeExponent rest = some (none, rest) := by
  cases rest with
  | nil => rfl
  | cons b rest =>
    obtain ⟨_, _, he, hE⟩ := h b rfl
    rw [takeExponent, if_neg (not_or.2 ⟨he, hE⟩)]

theorem takeUnsigned_natBytes (negative : Bool) (n : Nat) {rest : List UInt8} (h : Stops rest) :
    takeUnsigned negative (natBytes n ++ rest) = some (⟨negative, n, [], none⟩, rest) := by
  have hvalue := valueOf_digits n
  rw [takeUnsigned, natBytes_eq_map, takeDigits_append (fun _ => Decimal.lt_of_mem_digits) h]
  obtain ⟨d, ds, hds, hzero⟩ := Decimal.digits_eq_cons n
  rw [hds] at hvalue ⊢
  split
  · rename_i heq
    cases heq
  · rename_i heq
    cases heq
    cases hzero rfl
  · rename_i heq
    cases heq
    simp [takeFraction_of_stops h, takeExponent_of_stops h, hvalue]

/-- The bytes of an integer begin with a sign or a digit. -/
theorem bytes_ofInt_eq_cons (n : Int) :
    ∃ b bs, (ofInt n).bytes = b :: bs ∧ (b = '-'.toUInt8 ∨ ∃ d < 10, b = digitByte d) := by
  obtain ⟨d, ds, hds, _⟩ := Decimal.digits_eq_cons n.natAbs
  have hd : d < 10 := Decimal.lt_of_mem_digits (by rw [hds]; exact List.mem_cons_self)
  by_cases hneg : n < 0
  · refine ⟨_, natBytes n.natAbs, ?_, Or.inl rfl⟩
    simp [bytes, ofInt, hneg]
  · refine ⟨digitByte d, ds.map digitByte, ?_, Or.inr ⟨d, hd, rfl⟩⟩
    simp [bytes, ofInt, hneg, natBytes_eq_map, hds]

theorem digitByte_ne_minus : ∀ d < 10, digitByte d ≠ '-'.toUInt8 := by decide

/-- An integer is read back. -/
theorem take_bytes_ofInt (n : Int) {rest : List UInt8} (h : Stops rest) :
    take ((ofInt n).bytes ++ rest) = some (ofInt n, rest) := by
  by_cases hneg : n < 0
  · have hbytes : (ofInt n).bytes ++ rest = '-'.toUInt8 :: (natBytes n.natAbs ++ rest) := by
      simp [bytes, ofInt, hneg]
    rw [hbytes, take, if_pos rfl, takeUnsigned_natBytes true n.natAbs h]
    simp [ofInt, hneg]
  · have hbytes : (ofInt n).bytes = natBytes n.natAbs := by simp [bytes, ofInt, hneg]
    obtain ⟨d, ds, hds, _⟩ := Decimal.digits_eq_cons n.natAbs
    have hd : d < 10 := Decimal.lt_of_mem_digits (by rw [hds]; exact List.mem_cons_self)
    have hread := takeUnsigned_natBytes false n.natAbs h
    rw [natBytes_eq_map, hds, List.map_cons, List.cons_append] at hread
    rw [hbytes, natBytes_eq_map, hds, List.map_cons, List.cons_append, take,
      if_neg (digitByte_ne_minus d hd), hread]
    simp [ofInt, hneg]

end Json.Numeral

end OrgAccess
