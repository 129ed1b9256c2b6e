/-! Blank characters are those with the Unicode property White_Space. A text is trimmed by
dropping them at both ends, and it is blank when nothing is left. -/

namespace OrgAccess.Text

/-- The property White_Space. -/
def isBlank (c : Char) : Bool :=
  let n := c.toNat
  (0x9 ≤ n && n ≤ 0xd) || n == 0x20 || n == 0x85 || n == 0xa0 || n == 0x1680 ||
    (0x2000 ≤ n && n ≤ 0x200a) || n == 0x2028 || n == 0x2029 || n == 0x202f ||
    n == 0x205f || n == 0x3000

/-- Drop the blank characters at both ends. -/
def trimBlanks (cs : List Char) : List Char :=
  ((cs.dropWhile isBlank).reverse.dropWhile isBlank).reverse

def trim (s : String) : String := String.ofList (trimBlanks s.toList)

/-- Nothing but blank characters. -/
def AllBlank (s : String) : Prop := ∀ c ∈ s.toList, isBlank c = true

/-- The trimmed text, if anything is left of it. -/
def nonBlank? (s : String) : Option String :=
  if trim s = "" then none else some (trim s)

private theorem dropBlanks_eq_nil_iff (cs : List Char) :
    cs.dropWhile isBlank = [] ↔ ∀ c ∈ cs, isBlank c = true := by
  induction cs with
  | nil => simp
  | cons c cs ih => by_cases h : isBlank c = true <;> simp [h, ih]

theorem trimBlanks_eq_nil_iff (cs : List Char) :
    trimBlanks cs = [] ↔ ∀ c ∈ cs, isBlank c = true := by
  unfold trimBlanks
  constructor
  · intro h
    rw [List.reverse_eq_nil_iff, dropBlanks_eq_nil_iff] at h
    intro c hc
    rw [← List.takeWhile_append_dropWhile (p := isBlank) (l := cs)] at hc
    rcases List.mem_append.1 hc with hc | hc
    · exact (List.all_eq_true.1 List.all_takeWhile) c hc
    · exact h c (List.mem_reverse.2 hc)
  · intro h
    rw [(dropBlanks_eq_nil_iff _).2 h]
    rfl

theorem trim_eq_empty_iff (s : String) : trim s = "" ↔ AllBlank s := by
  unfold trim AllBlank
  rw [← trimBlanks_eq_nil_iff, ← String.toList_inj, String.toList_ofList]
  rfl

theorem nonBlank?_eq_some_iff (s t : String) : nonBlank? s = some t ↔ trim s = t ∧ t ≠ "" := by
  unfold nonBlank?
  split
  · rename_i hempty
    simp [hempty, eq_comm]
  · rename_i hne
    constructor
    · rintro ⟨⟩
      exact ⟨rfl, hne⟩
    · rintro ⟨rfl, _⟩
      rfl

instance (s : String) : Decidable (AllBlank s) := decidable_of_iff _ (trim_eq_empty_iff s)

end OrgAccess.Text
