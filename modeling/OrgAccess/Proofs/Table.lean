import OrgAccess.Table

/-! Tables seen through `find?`: their keys and values, entries stored under the key of their
own record, and references from one table into another. Each property of this kind is kept by
the writes that a store makes. -/

namespace OrgAccess.Table

variable {κ α ι β : Type} [Ordered κ] [Ordered ι]

theorem mem_keys_iff (t : Table κ α) (k : κ) : k ∈ t.keys ↔ ∃ v, t.find? k = some v := by
  constructor
  · intro h
    obtain ⟨e, he, rfl⟩ := List.mem_map.1 h
    exact ⟨e.2, (t.mem_entries_iff e.1 e.2).1 he⟩
  · rintro ⟨v, hv⟩
    exact List.mem_map.2 ⟨(k, v), (t.mem_entries_iff k v).2 hv, rfl⟩

theorem pairwise_keys (t : Table κ α) : t.keys.Pairwise Precedes := List.pairwise_map.2 t.ascending

theorem mem_values_iff (t : Table κ α) (v : α) : v ∈ t.values ↔ ∃ k, t.find? k = some v := by
  simp only [values, List.mem_map, Prod.exists, exists_eq_right]
  exact exists_congr fun k => t.mem_entries_iff k v

theorem contains_iff (t : Table κ α) (k : κ) : t.contains k = true ↔ ∃ v, t.find? k = some v :=
  Option.isSome_iff_exists

theorem not_contains_iff (t : Table κ α) (k : κ) : ¬ t.contains k = true ↔ t.find? k = none := by
  rw [contains, Option.not_isSome_iff_eq_none]

/-- One key or the other is missing from its table. -/
theorem not_contains_and_iff (t : Table κ α) (t' : Table ι β) (k : κ) (i : ι) :
    ¬ (t.contains k = true ∧ t'.contains i = true) ↔ t.find? k = none ∨ t'.find? i = none := by
  rw [Decidable.not_and_iff_or_not, not_contains_iff, not_contains_iff]

/-- Values that a predicate picks under one key only are at most one. -/
theorem length_filter_values_le_one (t : Table κ α) (p : α → Bool)
    (h : ∀ i j v w, t.find? i = some v → t.find? j = some w → p v → p w → i = j) :
    (t.values.filter p).length ≤ 1 := by
  have hsub : (t.entries.filter fun e => p e.2).Pairwise fun a b => Precedes a.1 b.1 :=
    t.ascending.sublist List.filter_sublist
  have hmem : ∀ e ∈ t.entries.filter fun e => p e.2, t.find? e.1 = some e.2 ∧ p e.2 := by
    intro e he
    obtain ⟨hin, hp⟩ := List.mem_filter.1 he
    exact ⟨(t.mem_entries_iff e.1 e.2).1 hin, hp⟩
  rw [values, List.filter_map, List.length_map]
  change (t.entries.filter fun e => p e.2).length ≤ 1
  cases hes : t.entries.filter fun e => p e.2 with
  | nil => simp
  | cons a es =>
    cases es with
    | nil => simp
    | cons b es =>
      rw [hes] at hsub hmem
      obtain ⟨ha, hpa⟩ := hmem a (by simp)
      obtain ⟨hb, hpb⟩ := hmem b (by simp)
      have hab : Precedes a.1 b.1 := (List.pairwise_cons.1 hsub).1 b (by simp)
      exact absurd (h a.1 b.1 a.2 b.2 ha hb hpa hpb) hab.ne

/-- Every entry stands under the key of its own record. -/
def Keyed (t : Table κ α) (key : α → κ) : Prop := ∀ k v, t.find? k = some v → key v = k

/-- The entry that every entry of `t` names through `f` is present in `u`. -/
def Refers (t : Table κ α) (f : κ → α → ι) (u : Table ι β) : Prop :=
  ∀ k v, t.find? k = some v → ∃ w, u.find? (f k v) = some w

theorem keyed_empty (key : α → κ) : (∅ : Table κ α).Keyed key := by
  intro k v h
  simp at h

theorem refers_empty (f : κ → α → ι) (u : Table ι β) : (∅ : Table κ α).Refers f u := by
  intro k v h
  simp at h

/-- What is under a key stays found there by its own key. -/
theorem Keyed.find?_self {t : Table κ α} {key : α → κ} (h : t.Keyed key) {k : κ} {v : α}
    (hv : t.find? k = some v) : t.find? (key v) = some v := by
  rw [h k v hv]
  exact hv

/-- Records that stand under their own keys are listed in the order of these keys. -/
theorem Keyed.pairwise_values {t : Table κ α} {key : α → κ} (h : t.Keyed key) :
    t.values.Pairwise fun v w => Precedes (key v) (key w) := by
  have hkey : ∀ e ∈ t.entries, key e.2 = e.1 := by
    intro e he
    exact h e.1 e.2 ((t.mem_entries_iff e.1 e.2).1 he)
  rw [values, List.pairwise_map]
  refine t.ascending.imp_of_mem ?_
  intro d e hd he hde
  rw [hkey d hd, hkey e he]
  exact hde

/-! ## One function on every value -/

section Map
variable {γ : Type}

/-- The same keys, with a function carried out on every value. -/
def map (t : Table κ α) (f : α → γ) : Table κ γ :=
  ⟨t.entries.map fun e => (e.1, f e.2), List.pairwise_map.2 t.ascending⟩

theorem find?_map (t : Table κ α) (f : α → γ) (k : κ) : (t.map f).find? k = (t.find? k).map f := by
  simp only [find?, map, List.find?_map, Option.map_map]
  rfl

theorem values_map (t : Table κ α) (f : α → γ) : (t.map f).values = t.values.map f := by
  simp only [values, map, List.map_map]
  rfl

/-- Two tables whose entries agree under two functions list the same values of these. -/
theorem map_values_congr {t : Table κ α} {u : Table κ β} {f : α → γ} {g : β → γ}
    (h : ∀ k, (t.find? k).map f = (u.find? k).map g) : t.values.map f = u.values.map g := by
  have htu : t.map f = u.map g := by
    apply ext_find?
    intro k
    rw [find?_map, find?_map, h k]
  rw [← values_map, ← values_map, htu]

end Map

section Writes
variable [DecidableEq κ]

theorem find?_insert_eq_some_iff (t : Table κ α) (k j : κ) (v w : α) :
    (t.insert k v).find? j = some w ↔ j = k ∧ v = w ∨ j ≠ k ∧ t.find? j = some w := by
  rw [find?_insert]
  by_cases h : j = k <;> simp [h]

theorem find?_insert_self (t : Table κ α) (k : κ) (v : α) : (t.insert k v).find? k = some v := by
  rw [find?_insert, if_pos rfl]

theorem find?_insert_of_ne (t : Table κ α) {k j : κ} (h : j ≠ k) (v : α) :
    (t.insert k v).find? j = t.find? j := by
  rw [find?_insert, if_neg h]

/-- Two entries may be put in either order, unless they are to stand under one key and differ. -/
theorem insert_comm (t : Table κ α) {k j : κ} {v w : α} (h : k = j → v = w) :
    (t.insert k v).insert j w = (t.insert j w).insert k v := by
  apply ext_find?
  intro i
  simp only [find?_insert]
  by_cases hj : i = j
  · by_cases hk : i = k
    · rw [if_pos hj, if_pos hk, h (hk.symm.trans hj)]
    · rw [if_pos hj, if_neg hk, if_pos hj]
  · rw [if_neg hj, if_neg hj]

theorem contains_insert (t : Table κ α) (k j : κ) (v : α) :
    (t.insert k v).contains j = true ↔ j = k ∨ t.contains j = true := by
  by_cases h : j = k <;> simp [contains, h]

theorem find?_erase_self (t : Table κ α) (k : κ) : (t.erase k).find? k = none := by
  rw [find?_erase, if_pos rfl]

theorem find?_erase_of_ne (t : Table κ α) {k j : κ} (h : j ≠ k) :
    (t.erase k).find? j = t.find? j := by
  rw [find?_erase, if_neg h]

/-- Where nothing stands under a key, there is nothing to take away. -/
theorem erase_eq_self {t : Table κ α} {k : κ} (h : t.find? k = none) : t.erase k = t := by
  apply ext_find?
  intro j
  by_cases hj : j = k
  · subst hj
    rw [find?_erase_self, h]
  · exact t.find?_erase_of_ne hj

/-- Changing a record in place is putting the changed record. -/
theorem modify_eq_insert (t : Table κ α) (k : κ) (f : α → α) {v : α}
    (hv : t.find? k = some v) : t.modify k f = t.insert k (f v) := by
  apply ext_find?
  intro j
  rw [find?_modify, find?_insert, hv]
  rfl

theorem Keyed.insert {t : Table κ α} {key : α → κ} (h : t.Keyed key) {k : κ} {v : α}
    (hk : key v = k) : (t.insert k v).Keyed key := by
  intro j w hw
  rcases (t.find?_insert_eq_some_iff k j v w).1 hw with ⟨rfl, rfl⟩ | ⟨_, hw⟩
  · exact hk
  · exact h j w hw

theorem Refers.insert {t : Table κ α} {f : κ → α → ι} {u : Table ι β} (h : t.Refers f u)
    {k : κ} {v : α} {w : β} (hw : u.find? (f k v) = some w) : (t.insert k v).Refers f u := by
  intro j x hx
  rcases (t.find?_insert_eq_some_iff k j v x).1 hx with ⟨rfl, rfl⟩ | ⟨_, hx⟩
  · exact ⟨w, hw⟩
  · exact h j x hx

theorem Refers.erase {t : Table κ α} {f : κ → α → ι} {u : Table ι β} (h : t.Refers f u)
    (k : κ) : (t.erase k).Refers f u := by
  intro j x hx
  rw [find?_erase] at hx
  by_cases hj : j = k
  · simp [hj] at hx
  · exact h j x (by simpa [hj] using hx)

end Writes

/-- The keys of a table made of a list of keys are those of the list. -/
theorem mem_keys_ofKeys_iff [DecidableEq κ] (ks : List κ) (k : κ) :
    k ∈ (ofKeys ks).keys ↔ k ∈ ks := by
  have hfold : ∀ t : Table κ Unit,
      k ∈ (ks.foldl (fun t k => t.insert k ()) t).keys ↔ k ∈ t.keys ∨ k ∈ ks := by
    induction ks with
    | nil => simp
    | cons j ks ih =>
      intro t
      have hinsert : k ∈ (t.insert j ()).keys ↔ k = j ∨ k ∈ t.keys := by
        simp only [mem_keys_iff, find?_insert]
        by_cases hk : k = j <;> simp [hk]
      rw [List.foldl_cons, ih, hinsert, List.mem_cons, or_comm (a := k = j), or_assoc]
  rw [ofKeys, hfold]
  simp [mem_keys_iff]

/-- Putting a record takes no key away, so references into the table stay good. -/
theorem Refers.grow [DecidableEq ι] {t : Table κ α} {f : κ → α → ι} {u : Table ι β}
    (h : t.Refers f u) (i : ι) (w : β) : t.Refers f (u.insert i w) := by
  intro k v hv
  obtain ⟨x, hx⟩ := h k v hv
  by_cases hi : f k v = i
  · exact ⟨w, by simp [hi]⟩
  · exact ⟨x, by simpa [hi] using hx⟩

end OrgAccess.Table
