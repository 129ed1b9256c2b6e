import OrgAccess.Record

/-! What `Precedes` says of compound keys and of texts, and what it means that one value comes first
among the values with some property. -/

namespace OrgAccess

section Compound
variable {α β : Type} [Ordered α] [Ordered β]

theorem not_precedes_iff (a b : α) : ¬ Precedes a b ↔ a = b ∨ Precedes b a := by
  constructor
  · intro h
    rcases precedes_trichotomy a b with hab | hab | hba
    · exact absurd hab h
    · exact Or.inl hab
    · exact Or.inr hba
  · rintro (rfl | hba)
    · exact Precedes.irrefl a
    · exact hba.asymm

/-- What comes before something that is not after `c` comes before `c`. -/
theorem Precedes.of_not_precedes {a b c : α} (h : Precedes a b) (hcb : ¬ Precedes c b) :
    Precedes a c := by
  rcases (not_precedes_iff c b).1 hcb with rfl | hbc
  · exact h
  · exact h.trans hbc

theorem precedes_pair_iff (p q : α × β) :
    Precedes p q ↔ Precedes p.1 q.1 ∨ p.1 = q.1 ∧ Precedes p.2 q.2 := by
  show (order p.1 q.1).then (order p.2 q.2) = .lt ↔ _
  cases h : order p.1 q.1 with
  | lt => simp [Precedes, h, Ordering.then]
  | eq => simp [Precedes, order_eq.1 h, order_self, Ordering.then]
  | gt =>
    have hne : p.1 ≠ q.1 := ((order_eq_gt_iff _ _).1 h).ne.symm
    simp [Precedes, h, hne, Ordering.then]

/-- Between pairs of one left part the right parts decide. -/
theorem Precedes.right {p q : α × β} (h : Precedes p q) (hleft : p.1 = q.1) :
    Precedes p.2 q.2 := by
  rcases (precedes_pair_iff p q).1 h with hlt | ⟨_, hlt⟩
  · exact absurd hleft hlt.ne
  · exact hlt

theorem precedes_some_iff (a b : α) : Precedes (some a) (some b) ↔ Precedes a b := by
  show orderList [a] [b] = .lt ↔ order a b = .lt
  rw [orderList]
  cases order a b <;> simp [orderList]

theorem none_precedes_some (b : α) : Precedes none (some b) := rfl

theorem not_precedes_none (a : Option α) : ¬ Precedes a none := by
  cases a <;> exact nofun

theorem precedes_cons_iff (a b : α) (as bs : List α) :
    Precedes (a :: as) (b :: bs) ↔ Precedes a b ∨ a = b ∧ Precedes as bs := by
  show orderList (a :: as) (b :: bs) = .lt ↔ _
  rw [orderList]
  cases h : order a b with
  | lt => simp [Precedes, h]
  | eq =>
    simp [Precedes, order_eq.1 h, order_self]
    rfl
  | gt => simp [Precedes, h, ((order_eq_gt_iff a b).1 h).ne.symm]

end Compound

section Texts

theorem precedes_char_iff (a b : Char) : Precedes a b ↔ a < b := by
  rw [Char.lt_def, UInt32.lt_iff_toNat_lt]
  exact (precedes_int_iff a.toNat b.toNat).trans Int.ofNat_lt

theorem precedes_chars_iff (as bs : List Char) : Precedes as bs ↔ as < bs := by
  induction as generalizing bs with
  | nil =>
    cases bs with
    | nil => exact iff_of_false (Precedes.irrefl []) (List.not_lt_nil [])
    | cons b bs => exact iff_of_true rfl (List.nil_lt_cons b bs)
  | cons a as ih =>
    cases bs with
    | nil => exact iff_of_false nofun (List.not_lt_nil (a :: as))
    | cons b bs => rw [precedes_cons_iff, List.cons_lt_cons_iff, precedes_char_iff, ih]

/-- Texts come in code-point order. -/
theorem precedes_string_iff (a b : String) : Precedes a b ↔ a < b :=
  precedes_chars_iff a.toList b.toList

end Texts

theorem precedes_nat_iff (a b : Nat) : Precedes a b ↔ a < b :=
  (precedes_int_iff a b).trans Int.ofNat_lt

theorem precedes_int64_iff (a b : Int64) : Precedes a b ↔ a.toInt < b.toInt :=
  precedes_int_iff a.toInt b.toInt

/-- Identifiers come in the order of their values. -/
theorem precedes_id_iff {kind : IdKind} (i j : Id kind) : Precedes i j ↔ i.value < j.value := by
  rw [Int64.lt_iff_toInt_lt]
  exact precedes_int64_iff i.value j.value

/-- No identifier lies below the least 64-bit value. -/
theorem not_precedes_minValue {kind : IdKind} (i : Id kind) :
    ¬ Precedes i ⟨Int64.minValue⟩ := by
  intro h
  have hlt := (precedes_int64_iff i.value Int64.minValue).1 h
  have hle := i.value.minValue_le_toInt
  omega

/-- No identifier lies above the greatest 64-bit value. -/
theorem not_maxValue_precedes {kind : IdKind} (i : Id kind) :
    ¬ Precedes ⟨Int64.maxValue⟩ i := by
  intro h
  have hlt := (precedes_int64_iff Int64.maxValue i.value).1 h
  have hle := i.value.toInt_le
  omega

/-- `a` has the property `P`, and all else that has it comes after `a` by the key `f`. -/
def FirstBy {α β : Type} [Ordered β] (f : α → β) (P : α → Prop) (a : α) : Prop :=
  P a ∧ ∀ b, P b → b ≠ a → Precedes (f a) (f b)

/-- A value that nothing comes before is the first one where the key tells values apart. -/
theorem FirstBy.of_not_precedes {α β : Type} [Ordered β] {f : α → β} {P : α → Prop} {a : α}
    (ha : P a) (hmin : ∀ b, P b → ¬ Precedes (f b) (f a))
    (hinj : ∀ b, P b → f b = f a → b = a) : FirstBy f P a := by
  refine ⟨ha, ?_⟩
  intro b hb hne
  rcases (not_precedes_iff (f b) (f a)).1 (hmin b hb) with heq | hlt
  · exact absurd (hinj b hb heq) hne
  · exact hlt

theorem FirstBy.unique {α β : Type} [Ordered β] {f : α → β} {P : α → Prop} {a b : α}
    (ha : FirstBy f P a) (hb : FirstBy f P b) : a = b := by
  rcases Classical.em (b = a) with heq | hne
  · exact heq.symm
  · have hab : Precedes (f a) (f b) := ha.2 b hb.1 hne
    exact absurd (hb.2 a ha.1 fun heq => hne heq.symm) hab.asymm

/-- The first one depends on which values have the property and on nothing else. -/
theorem FirstBy.congr {α β : Type} [Ordered β] {f : α → β} {P Q : α → Prop} {a : α}
    (h : FirstBy f P a) (hPQ : ∀ b, P b ↔ Q b) : FirstBy f Q a :=
  ⟨(hPQ a).1 h.1, fun b hb hne => h.2 b ((hPQ b).2 hb) hne⟩

end OrgAccess
