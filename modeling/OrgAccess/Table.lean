import OrgAccess.Order

/-! Tables: values under distinct keys, kept in key order. A table is determined by what
`find?` answers, so two tables built by different histories are equal as soon as they hold
the same entries. -/

namespace OrgAccess

/-- Entries in strictly ascending key order. -/
structure Table (κ α : Type) [Ordered κ] where
  entries : List (κ × α)
  ascending : entries.Pairwise (fun a b => Precedes a.1 b.1)

namespace Table

variable {κ α : Type} [Ordered κ]

def empty : Table κ α := ⟨[], List.Pairwise.nil⟩

instance : EmptyCollection (Table κ α) := ⟨empty⟩

def keys (t : Table κ α) : List κ := t.entries.map (·.1)

def values (t : Table κ α) : List α := t.entries.map (·.2)

def find? (t : Table κ α) (k : κ) : Option α :=
  (t.entries.find? (fun e => order k e.1 == .eq)).map (·.2)

def contains (t : Table κ α) (k : κ) : Bool := (t.find? k).isSome

private def place (k : κ) : Option α → List (κ × α)
  | none => []
  | some v => [(k, v)]

private def alterEntries (k : κ) (f : Option α → Option α) : List (κ × α) → List (κ × α)
  | [] => place k (f none)
  | e :: es =>
    match order k e.1 with
    | .lt => place k (f none) ++ e :: es
    | .eq => place k (f (some e.2)) ++ es
    | .gt => e :: alterEntries k f es

private theorem precedes_place {k : κ} {o : Option α} {j : κ} (h : Precedes j k) :
    ∀ e ∈ place k o, Precedes j e.1 := by
  cases o <;> simp [place, h]

private theorem precedes_alterEntries {k j : κ} {f : Option α → Option α} (h : Precedes j k)
    {es : List (κ × α)} (hes : ∀ e ∈ es, Precedes j e.1) :
    ∀ e ∈ alterEntries k f es, Precedes j e.1 := by
  induction es with
  | nil => exact precedes_place h
  | cons d es ih =>
    intro e he
    rw [alterEntries] at he
    split at he
    · rcases List.mem_append.1 he with h1 | h1
      · exact precedes_place h e h1
      · exact hes e h1
    · rcases List.mem_append.1 he with h1 | h1
      · exact precedes_place h e h1
      · exact hes e (List.mem_cons_of_mem _ h1)
    · rcases List.mem_cons.1 he with h1 | h1
      · exact h1 ▸ hes d List.mem_cons_self
      · exact ih (fun e he => hes e (List.mem_cons_of_mem _ he)) e h1

private theorem ascending_place (k : κ) (o : Option α) {es : List (κ × α)}
    (hes : es.Pairwise (fun a b => Precedes a.1 b.1)) (h : ∀ e ∈ es, Precedes k e.1) :
    (place k o ++ es).Pairwise (fun a b => Precedes a.1 b.1) := by
  cases o with
  | none => simpa [place] using hes
  | some v => simpa [place] using ⟨fun a b hab => h (a, b) hab, hes⟩

private theorem ascending_alterEntries (k : κ) (f : Option α → Option α)
    {es : List (κ × α)} (hes : es.Pairwise (fun a b => Precedes a.1 b.1)) :
    (alterEntries k f es).Pairwise (fun a b => Precedes a.1 b.1) := by
  induction es with
  | nil => simpa [alterEntries] using ascending_place k (f none) List.Pairwise.nil (by simp)
  | cons e es ih =>
    obtain ⟨h1, h2⟩ := List.pairwise_cons.1 hes
    rw [alterEntries]
    cases h : order k e.1 with
    | lt =>
      refine ascending_place k _ hes fun d hd => ?_
      rcases List.mem_cons.1 hd with rfl | hd
      · exact h
      · exact Precedes.trans h (h1 d hd)
    | eq =>
      refine ascending_place k _ h2 fun d hd => ?_
      rw [order_eq.1 h]
      exact h1 d hd
    | gt =>
      exact List.pairwise_cons.2
        ⟨precedes_alterEntries ((order_eq_gt_iff _ _).1 h) h1, ih h2⟩

/-- Replace what stands under `k`, present or not, by `f` of it. -/
def alter (t : Table κ α) (k : κ) (f : Option α → Option α) : Table κ α :=
  ⟨alterEntries k f t.entries, ascending_alterEntries k f t.ascending⟩

def insert (t : Table κ α) (k : κ) (v : α) : Table κ α := t.alter k (fun _ => some v)

def modify (t : Table κ α) (k : κ) (f : α → α) : Table κ α := t.alter k (Option.map f)

def erase (t : Table κ α) (k : κ) : Table κ α := t.alter k (fun _ => none)

/-- One entry for each key of a list. -/
def ofKeys (ks : List κ) : Table κ Unit := ks.foldl (fun t k => t.insert k ()) ∅

private theorem find?_eq_none_of_precedes {k : κ} {es : List (κ × α)}
    (h : ∀ e ∈ es, Precedes k e.1) : es.find? (fun e => order k e.1 == .eq) = none := by
  refine List.find?_eq_none.2 fun e he => ?_
  simp [show order k e.1 = .lt from h e he]

@[simp] theorem find?_empty (k : κ) : (∅ : Table κ α).find? k = none := rfl

/-- The entries are the answers of `find?`. -/
theorem mem_entries_iff (t : Table κ α) (k : κ) (v : α) :
    (k, v) ∈ t.entries ↔ t.find? k = some v := by
  obtain ⟨es, hes⟩ := t
  simp only [find?]
  induction es with
  | nil => simp
  | cons e es ih =>
    obtain ⟨h1, h2⟩ := List.pairwise_cons.1 hes
    by_cases h : order k e.1 = .eq
    · have hk : k = e.1 := order_eq.1 h
      have hn : (k, v) ∉ es := fun c => Precedes.irrefl e.1 (hk ▸ h1 _ c)
      simp only [List.mem_cons, hn, or_false, List.find?_cons, h, beq_self_eq_true,
        Option.map_some, Option.some.injEq, Prod.ext_iff]
      exact ⟨fun c => c.2.symm, fun c => ⟨hk, c.symm⟩⟩
    · have hne : (k, v) ≠ e := by
        rintro rfl
        exact h (order_self _)
      simp only [List.mem_cons, hne, false_or, List.find?_cons, beq_eq_false_iff_ne.2 h]
      exact ih h2

/-- Two tables with the same answers are the same table. -/
theorem ext_find? {t u : Table κ α} (h : ∀ k, t.find? k = u.find? k) : t = u := by
  have hm : ∀ e, e ∈ t.entries ↔ e ∈ u.entries := fun ⟨k, v⟩ => by
    rw [mem_entries_iff, mem_entries_iff, h]
  obtain ⟨es, hes⟩ := t
  obtain ⟨ds, hds⟩ := u
  simp only [Table.mk.injEq]
  simp only at hm
  clear h
  induction es generalizing ds with
  | nil =>
    cases ds with
    | nil => rfl
    | cons d ds => simpa using (hm d).2 List.mem_cons_self
  | cons e es ih =>
    cases ds with
    | nil => simpa using (hm e).1 List.mem_cons_self
    | cons d ds =>
      obtain ⟨he, hes'⟩ := List.pairwise_cons.1 hes
      obtain ⟨hd, hds'⟩ := List.pairwise_cons.1 hds
      have hed : e = d := by
        rcases List.mem_cons.1 ((hm e).1 List.mem_cons_self) with h | h
        · exact h
        · rcases List.mem_cons.1 ((hm d).2 List.mem_cons_self) with k | k
          · exact k.symm
          · exact absurd (hd e h) (Precedes.asymm (he d k))
      subst hed
      rw [ih hes' ds hds' fun x => ?_]
      constructor
      · intro hx
        rcases List.mem_cons.1 ((hm x).1 (List.mem_cons_of_mem _ hx)) with h | h
        · exact absurd (h ▸ he x hx) (Precedes.irrefl _)
        · exact h
      · intro hx
        rcases List.mem_cons.1 ((hm x).2 (List.mem_cons_of_mem _ hx)) with h | h
        · exact absurd (h ▸ hd x hx) (Precedes.irrefl _)
        · exact h

variable [DecidableEq κ]

private theorem find?_place (k j : κ) (o : Option α) :
    (place k o).find? (fun e => order j e.1 == .eq) =
      if j = k then o.map (fun v => (k, v)) else none := by
  cases o with
  | none => simp [place]
  | some v =>
    by_cases h : j = k
    · simp [place, h, order_self]
    · have : order j k ≠ .eq := fun e => h (order_eq.1 e)
      simp [place, h, this]

private theorem find?_alterEntries (k j : κ) (f : Option α → Option α) {es : List (κ × α)}
    (hes : es.Pairwise (fun a b => Precedes a.1 b.1)) :
    ((alterEntries k f es).find? (fun e => order j e.1 == .eq)).map (·.2) =
      if j = k then f ((es.find? (fun e => order k e.1 == .eq)).map (·.2))
      else (es.find? (fun e => order j e.1 == .eq)).map (·.2) := by
  induction es with
  | nil =>
    rw [alterEntries, find?_place]
    by_cases h : j = k
    · cases hf : f none <;> simp [h, hf]
    · simp [h]
  | cons e es ih =>
    obtain ⟨h1, h2⟩ := List.pairwise_cons.1 hes
    rw [alterEntries]
    cases h : order k e.1 with
    | lt =>
      have hn : (e :: es).find? (fun d => order k d.1 == .eq) = none := by
        refine find?_eq_none_of_precedes fun d hd => ?_
        rcases List.mem_cons.1 hd with rfl | hd
        · exact h
        · exact Precedes.trans h (h1 d hd)
      rw [List.find?_append, find?_place]
      by_cases hj : j = k
      · subst hj
        rw [hn]
        cases hf : f none <;> simp [hf]
      · simp [hj]
    | eq =>
      have hk : k = e.1 := order_eq.1 h
      have hn : es.find? (fun d => order k d.1 == .eq) = none :=
        find?_eq_none_of_precedes (hk ▸ h1)
      rw [List.find?_append, find?_place]
      by_cases hj : j = k
      · subst hj
        cases hf : f (some e.2) <;> simp [hn, h, hf]
      · have : order j e.1 ≠ .eq := fun c => hj ((order_eq.1 c).trans hk.symm)
        simp [hj, this]
    | gt =>
      have hkj : order k e.1 ≠ .eq := by simp [h]
      by_cases hje : order j e.1 = .eq
      · have hj : j ≠ k := fun c => hkj (c ▸ hje)
        simp [hje, hj]
      · simp only [List.find?_cons, beq_eq_false_iff_ne.2 hje, beq_eq_false_iff_ne.2 hkj]
        exact ih h2

@[simp] theorem find?_alter (t : Table κ α) (k j : κ) (f : Option α → Option α) :
    (t.alter k f).find? j = if j = k then f (t.find? k) else t.find? j :=
  find?_alterEntries k j f t.ascending

@[simp] theorem find?_insert (t : Table κ α) (k j : κ) (v : α) :
    (t.insert k v).find? j = if j = k then some v else t.find? j := by
  simp [insert]

@[simp] theorem find?_modify (t : Table κ α) (k j : κ) (f : α → α) :
    (t.modify k f).find? j = if j = k then (t.find? k).map f else t.find? j := by
  simp [modify]

@[simp] theorem find?_erase (t : Table κ α) (k j : κ) :
    (t.erase k).find? j = if j = k then none else t.find? j := by
  simp [erase]

end Table

end OrgAccess
