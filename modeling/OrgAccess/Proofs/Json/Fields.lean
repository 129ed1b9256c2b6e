import OrgAccess.Json.Fields
import OrgAccess.Proofs.Json.Value

/-! Records are read back. A reader that asks for fields by name does not mind in which order they
stand, nor whether there are others among them; so what is written by one and read by the other is
the same record, and it is still the same after its fields were rearranged. -/

namespace OrgAccess.Json

/-- The same fields in some order, among others of unknown names that hold texts. -/
def Arrangement (names : List String) (fs gs : List (String × Json)) : Prop :=
  ∃ extra : List (String × String), (∀ e ∈ extra, e.1 ∉ names) ∧
    gs.Perm (fs ++ extra.map fun e => (e.1, ofText e.2))

/-- The same value, or the same object after its fields were rearranged. -/
inductive Rearranged (names : List String) : Json → Json → Prop where
  | same (j : Json) : Rearranged names j j
  | fields {fs gs : List (String × Json)} (h : Arrangement names fs gs) :
    Rearranged names (ofFields fs) (ofFields gs)

/-- What is written as bytes is read back, also after a rearrangement of the known names. -/
def ReadsBack {α : Type} (write : α → Json) (read? : Json → Option α) (names : List String) :
    Prop :=
  ∀ a k, Rearranged names (write a) k → (parse? k.bytes).bind read? = some a

/-! Readers of parts undo their writers. -/

theorem int?_ofInt (n : Int) : (ofInt n).int? = some n := Numeral.toInt?_ofInt n

@[simp]
theorem text?_ofText (s : String) : (ofText s).text? = some s := rfl

theorem optional_ofOption {α : Type} {write : α → Json} {read? : Json → Option α}
    (hnull : ∀ a, write a ≠ .null) (hread : ∀ a, read? (write a) = some a) (o : Option α) :
    optional read? (some (ofOption write o)) = some o := by
  cases o with
  | none => rfl
  | some a =>
    show optional read? (some (write a)) = _
    rw [optional]
    · rw [hread, Option.map_some]
    · exact hnull a

@[simp]
theorem optional_text (o : Option String) : optional text? (some (ofOption ofText o)) = some o :=
  optional_ofOption (fun _ => by rintro ⟨⟩) text?_ofText o

theorem list?_ofList {α : Type} {write : α → Json} {read? : Json → Option α}
    (hread : ∀ a, read? (write a) = some a) (as : List α) :
    list? read? (ofList write as) = some as := by
  rw [ofList, list?]
  induction as with
  | nil => rfl
  | cons a as ih =>
    rw [List.map_cons, List.mapM_cons, hread, ih]
    rfl

/-! What is written is whole. -/

@[simp]
theorem whole_ofText (s : String) : (ofText s).Whole := .string _

theorem whole_ofInt (n : Int) : (ofInt n).Whole := .int n

theorem whole_ofOption {α : Type} {write : α → Json} (h : ∀ a, (write a).Whole) (o : Option α) :
    (ofOption write o).Whole := by
  cases o with
  | none => exact .null
  | some a => exact h a

theorem whole_ofList {α : Type} {write : α → Json} (h : ∀ a, (write a).Whole) (as : List α) :
    (ofList write as).Whole := by
  refine .array fun x hx => ?_
  obtain ⟨a, _, rfl⟩ := List.mem_map.1 hx
  exact h a

theorem whole_ofFields_iff (fs : List (String × Json)) :
    (ofFields fs).Whole ↔ ∀ f ∈ fs, f.2.Whole := by
  constructor
  · intro h f hf
    cases h with
    | object h => exact h (.text f.1, f.2) (List.mem_map_of_mem hf)
  · intro h
    refine .object fun m hm => ?_
    obtain ⟨f, hf, rfl⟩ := List.mem_map.1 hm
    exact h f hf

/-- What holds of texts holds of the fields after a rearrangement if it held before. -/
theorem Arrangement.forall_iff {names : List String} {fs gs : List (String × Json)}
    (h : Arrangement names fs gs) {p : Json → Prop} (htext : ∀ s, p (ofText s)) :
    (∀ g ∈ gs, p g.2) ↔ ∀ f ∈ fs, p f.2 := by
  obtain ⟨extra, _, hperm⟩ := h
  constructor
  · intro hgs f hf
    exact hgs f (hperm.mem_iff.2 (List.mem_append_left _ hf))
  · intro hfs g hg
    rcases List.mem_append.1 (hperm.mem_iff.1 hg) with hg | hg
    · exact hfs g hg
    · obtain ⟨e, _, rfl⟩ := List.mem_map.1 hg
      exact htext e.2

theorem Rearranged.whole {names : List String} {j k : Json} (h : Rearranged names j k)
    (hj : j.Whole) : k.Whole := by
  cases h with
  | same => exact hj
  | fields h =>
    rw [whole_ofFields_iff] at hj ⊢
    exact (h.forall_iff whole_ofText).2 hj

/-! Readers of fields do not mind a rearrangement. -/

theorem members?_ofFields (fs : List (String × Json)) : members? (ofFields fs) = some fs := by
  induction fs with
  | nil => rfl
  | cons f fs ih =>
    rw [ofFields, members?, List.map_cons, List.mapM_cons]
    rw [ofFields, members?] at ih
    rw [ih]
    rfl

/-- It does not matter in which order the members stand. -/
theorem atMostOnce?_of_perm {α : Type} {ms ns : List (String × α)} (h : ms.Perm ns)
    (key : String) : atMostOnce? ms key = atMostOnce? ns key := by
  have hfilter := h.filter (fun m => m.1 = key)
  rw [atMostOnce?, atMostOnce?]
  cases hms : ms.filter (fun m => m.1 = key) with
  | nil =>
    rw [hms] at hfilter
    rw [hfilter.nil_eq]
  | cons m rest =>
    rw [hms] at hfilter
    cases rest with
    | nil => rw [List.perm_singleton.1 hfilter.symm]
    | cons n rest =>
      have hlen := hfilter.length_eq
      cases hns : ns.filter (fun m => m.1 = key) with
      | nil => simp [hns] at hlen
      | cons a as =>
        cases as with
        | nil => simp [hns] at hlen
        | cons b bs => rfl

/-- Members of other keys do not count. -/
theorem atMostOnce?_append {α : Type} (ms : List (String × α)) {ns : List (String × α)}
    {key : String} (h : ∀ n ∈ ns, n.1 ≠ key) : atMostOnce? (ms ++ ns) key = atMostOnce? ms key := by
  have hnone : ns.filter (fun n => n.1 = key) = [] :=
    List.filter_eq_nil_iff.2 fun n hn => by simpa using h n hn
  rw [atMostOnce?, List.filter_append, hnone, List.append_nil]
  rfl

namespace Arrangement

variable {names : List String} {fs gs : List (String × Json)}

theorem atMostOnce? (h : Arrangement names fs gs) {key : String} (hkey : key ∈ names) :
    Json.atMostOnce? gs key = Json.atMostOnce? fs key := by
  obtain ⟨extra, hnew, hperm⟩ := h
  rw [atMostOnce?_of_perm hperm, atMostOnce?_append]
  rintro n hn rfl
  obtain ⟨e, he, rfl⟩ := List.mem_map.1 hn
  exact hnew e he hkey

theorem mapM_atMostOnce? (h : Arrangement names fs gs) {asked : List String}
    (hasked : ∀ key ∈ asked, key ∈ names) :
    asked.mapM (Json.atMostOnce? gs) = asked.mapM (Json.atMostOnce? fs) := by
  induction asked with
  | nil => rfl
  | cons key asked ih =>
    rw [List.mapM_cons, List.mapM_cons, h.atMostOnce? (hasked key List.mem_cons_self),
      ih fun k hk => hasked k (List.mem_cons_of_mem key hk)]

theorem fields? (h : Arrangement names fs gs) {asked : List String}
    (hasked : ∀ key ∈ asked, key ∈ names) :
    Json.fields? asked (ofFields gs) = Json.fields? asked (ofFields fs) := by
  have hgs : Json.fields? asked (ofFields gs) = asked.mapM (Json.atMostOnce? gs) := by
    show (members? (ofFields gs)).bind _ = _
    rw [members?_ofFields, Option.bind_some]
  have hfs : Json.fields? asked (ofFields fs) = asked.mapM (Json.atMostOnce? fs) := by
    show (members? (ofFields fs)).bind _ = _
    rw [members?_ofFields, Option.bind_some]
  rw [hgs, hfs, h.mapM_atMostOnce? hasked]

end Arrangement

theorem atMostOnce?_of_mem {α : Type} {ms : List (String × α)} (h : (ms.map (·.1)).Nodup)
    {m : String × α} (hm : m ∈ ms) : atMostOnce? ms m.1 = some (some m.2) := by
  obtain ⟨before, after, rfl⟩ := List.append_of_mem hm
  have hother : ∀ n ∈ before ++ after, n.1 ≠ m.1 := by
    intro n hn heq
    rw [List.map_append, List.map_cons, List.nodup_append] at h
    obtain ⟨_, hafter, hbefore⟩ := h
    rcases List.mem_append.1 hn with hn | hn
    · exact hbefore n.1 (List.mem_map_of_mem hn) m.1 List.mem_cons_self heq
    · exact (List.nodup_cons.1 hafter).1 (heq ▸ List.mem_map_of_mem hn)
  have hfirst : (before ++ m :: after).Perm ([m] ++ (before ++ after)) := List.perm_middle
  rw [atMostOnce?_of_perm hfirst, atMostOnce?_append [m] hother, atMostOnce?]
  simp

/-- The fields of a record that is written with all of them. -/
theorem fields?_ofFields {fs : List (String × Json)} (h : (fs.map (·.1)).Nodup) :
    fields? (fs.map (·.1)) (ofFields fs) = some ((fs.map (·.2)).map some) := by
  have hread : ∀ gs : List (String × Json), (∀ g ∈ gs, g ∈ fs) →
      (gs.map (·.1)).mapM (atMostOnce? fs) = some ((gs.map (·.2)).map some) := by
    intro gs hgs
    induction gs with
    | nil => rfl
    | cons g gs ih =>
      rw [List.map_cons, List.mapM_cons, atMostOnce?_of_mem h (hgs g List.mem_cons_self),
        ih fun f hf => hgs f (List.mem_cons_of_mem g hf)]
      rfl
  show (members? (ofFields fs)).bind _ = _
  rw [members?_ofFields, Option.bind_some, hread fs fun _ hf => hf]

theorem fields?_zip {names : List String} (hnodup : names.Nodup) {vs : List Json}
    (hlen : names.length = vs.length) :
    fields? names (ofFields (names.zip vs)) = some (vs.map some) := by
  have hnames : (names.zip vs).map (·.1) = names := List.map_fst_zip (Nat.le_of_eq hlen)
  have hvs : (names.zip vs).map (·.2) = vs := List.map_snd_zip (Nat.le_of_eq hlen.symm)
  have hread := fields?_ofFields (by rwa [hnames] : ((names.zip vs).map (·.1)).Nodup)
  rwa [hnames, hvs] at hread

/-- A reader does not mind a rearrangement of the known names. -/
def Steady {α : Type} (read? : Json → Option α) (names : List String) : Prop :=
  ∀ fs gs, Arrangement names fs gs → read? (ofFields gs) = read? (ofFields fs)

/-- A reader that goes by the fields alone is steady. -/
theorem steady_of_fields {α : Type} (decode : List (Option Json) → Option α) (names : List String) :
    Steady (fun j => (fields? names j).bind decode) names := by
  intro fs gs h
  show (fields? names (ofFields gs)).bind decode = (fields? names (ofFields fs)).bind decode
  rw [h.fields? fun _ hkey => hkey]

theorem ReadsBack.of_steady {α : Type} {write : α → Json} {read? : Json → Option α}
    {names : List String} (hsteady : Steady read? names) (hwhole : ∀ a, (write a).Whole)
    (hread : ∀ a, read? (write a) = some a) : ReadsBack write read? names := by
  intro a k h
  rw [parse?_bytes (h.whole (hwhole a)), Option.bind_some, ← hread a]
  generalize write a = j at h
  cases h with
  | same => rfl
  | fields h => exact hsteady _ _ h

/-! What is kept until it is known what it is for is kept in any arrangement. -/

theorem membersPlain_iff (ms : List (Literal × Json)) :
    membersPlain ms ↔ ∀ m ∈ ms, m.1.isText ∧ m.2.isPlain := by
  induction ms with
  | nil => simp [membersPlain]
  | cons m ms ih => simp [membersPlain, ih, and_assoc]

theorem depthOfMembers_le_iff (ms : List (Literal × Json)) (n : Nat) :
    depthOfMembers ms ≤ n ↔ ∀ m ∈ ms, m.2.depth ≤ n := by
  induction ms with
  | nil => simp [depthOfMembers]
  | cons m ms ih => rw [depthOfMembers, Nat.max_le, ih, List.forall_mem_cons]

theorem keepable_ofFields_iff (fs : List (String × Json)) :
    (ofFields fs).keepable 0 ↔ ∀ f ∈ fs, f.2.isPlain ∧ f.2.depth ≤ 126 := by
  have hdepth : (0 + (ofFields fs).depth < 128) ↔ ∀ f ∈ fs, f.2.depth ≤ 126 := by
    have hlt : ∀ n, 0 + (n + 1) < 128 ↔ n ≤ 126 := by omega
    rw [ofFields, depth, hlt, depthOfMembers_le_iff, List.forall_mem_map]
  have hplain : (ofFields fs).isPlain ↔ ∀ f ∈ fs, f.2.isPlain := by
    rw [ofFields, isPlain, membersPlain_iff, List.forall_mem_map]
    simp [Literal.isText]
  rw [keepable, Bool.and_eq_true, hplain, decide_eq_true_iff, hdepth]
  exact ⟨fun h f hf => ⟨h.1 f hf, h.2 f hf⟩, fun h => ⟨fun f hf => (h f hf).1,
    fun f hf => (h f hf).2⟩⟩

theorem keepable_ofText (s : String) : (ofText s).isPlain ∧ (ofText s).depth ≤ 126 :=
  ⟨rfl, Nat.zero_le _⟩

namespace Arrangement

variable {names : List String} {fs gs : List (String × Json)}

theorem keepable (h : Arrangement names fs gs) :
    (ofFields gs).keepable 0 = (ofFields fs).keepable 0 := by
  rw [Bool.eq_iff_iff, keepable_ofFields_iff, keepable_ofFields_iff]
  exact h.forall_iff (p := fun j => j.isPlain ∧ j.depth ≤ 126) keepable_ofText

/-- A field of a known name may be left out on both sides. -/
theorem filter (h : Arrangement names fs gs) {key : String} (hkey : key ∈ names) :
    Arrangement names (fs.filter fun f => f.1 ≠ key) (gs.filter fun g => g.1 ≠ key) := by
  obtain ⟨extra, hnew, hperm⟩ := h
  refine ⟨extra, hnew, ?_⟩
  have hkept : (extra.map fun e => (e.1, ofText e.2)).filter (fun g => g.1 ≠ key) =
      extra.map fun e => (e.1, ofText e.2) := by
    refine List.filter_eq_self.2 fun g hg => ?_
    obtain ⟨e, he, rfl⟩ := List.mem_map.1 hg
    have hne : e.1 ≠ key := fun heq => hnew e he (heq ▸ hkey)
    simpa using hne
  rw [← hkept, ← List.filter_append]
  exact hperm.filter _

end Arrangement

/-- A record that is written with all its fields, and read from them. -/
theorem readsBack_of_zip {α : Type} {names : List String} {values : α → List Json}
    {decode : List (Option Json) → Option α} (hnodup : names.Nodup)
    (hlen : ∀ a, names.length = (values a).length) (hwhole : ∀ a, ∀ v ∈ values a, v.Whole)
    (hread : ∀ a, decode ((values a).map some) = some a) :
    ReadsBack (fun a => ofFields (names.zip (values a))) (fun j => (fields? names j).bind decode)
      names := by
  refine .of_steady (steady_of_fields decode names) (fun a => ?_) fun a => ?_
  · exact (whole_ofFields_iff _).2 fun f hf => hwhole a f.2 (List.of_mem_zip hf).2
  · rw [fields?_zip hnodup (hlen a), Option.bind_some, hread]

/-- What is no object is read back as it was written. -/
theorem readsBack_of_scalar {α : Type} {write : α → Json} {read? : Json → Option α}
    (hscalar : ∀ a ms, write a ≠ .object ms) (hwhole : ∀ a, (write a).Whole)
    (hread : ∀ a, read? (write a) = some a) : ReadsBack write read? [] := by
  intro a k h
  have hk : k = write a := by
    generalize hj : write a = j at h
    cases h with
    | same => rfl
    | fields => exact absurd hj (hscalar a _)
  rw [hk, parse?_bytes (hwhole a), Option.bind_some, hread]

end OrgAccess.Json
