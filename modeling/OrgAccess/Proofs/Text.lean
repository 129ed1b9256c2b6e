import Mathlib.Data.List.DropRight
import OrgAccess.Text.Blank

/-! Trimmed texts. A trimmed text has a blank at neither end, so trimming it again changes nothing,
and whoever reads texts trimmed cannot tell a text from its trimmed form. What a text is trimmed to
is told without the function too: it is the tight text that stands between blanks there. -/

namespace OrgAccess.Text

/-- Nothing is trimmed off a text without blanks. -/
theorem trimBlanks_of_not_blank {cs : List Char} (h : ∀ c ∈ cs, isBlank c = false) :
    trimBlanks cs = cs := by
  have hdrop : ∀ ds : List Char, (∀ c ∈ ds, isBlank c = false) → ds.dropWhile isBlank = ds := by
    intro ds hds
    cases ds with
    | nil => rfl
    | cons c ds => simp [hds c (by simp)]
  have hreverse : ∀ c ∈ cs.reverse, isBlank c = false := by simpa using h
  rw [trimBlanks, hdrop cs h, hdrop cs.reverse hreverse, List.reverse_reverse]

theorem trimBlanks_eq_rdropWhile (cs : List Char) :
    trimBlanks cs = (cs.dropWhile isBlank).rdropWhile isBlank := rfl

/-- A trimmed text begins with a character that is not blank. -/
theorem dropWhile_trimBlanks (cs : List Char) :
    (trimBlanks cs).dropWhile isBlank = trimBlanks cs := by
  rw [List.dropWhile_eq_self_iff]
  intro hlen
  have hpre : trimBlanks cs <+: cs.dropWhile isBlank := List.rdropWhile_prefix isBlank _
  rw [hpre.getElem hlen]
  exact List.dropWhile_get_zero_not isBlank cs (Nat.lt_of_lt_of_le hlen hpre.length_le)

theorem trimBlanks_trimBlanks (cs : List Char) : trimBlanks (trimBlanks cs) = trimBlanks cs := by
  rw [trimBlanks_eq_rdropWhile (trimBlanks cs), dropWhile_trimBlanks, trimBlanks_eq_rdropWhile,
    List.rdropWhile_idempotent]

@[simp] theorem trim_trim (s : String) : trim (trim s) = trim s := by
  simp only [trim, String.toList_ofList, trimBlanks_trimBlanks]

@[simp] theorem nonBlank?_trim (s : String) : nonBlank? (trim s) = nonBlank? s := by
  simp only [nonBlank?, trim_trim]

theorem nonBlank?_eq_some {s : String} (h : ¬ AllBlank s) : nonBlank? s = some (trim s) := by
  have hne : trim s ≠ "" := fun heq => h ((trim_eq_empty_iff s).1 heq)
  simp [nonBlank?, hne]

theorem nonBlank?_eq_none {s : String} (h : AllBlank s) : nonBlank? s = none :=
  if_pos ((trim_eq_empty_iff s).2 h)

/-- What is left of a text after trimming is not blank. -/
theorem not_allBlank_of_nonBlank? {s t : String} (h : nonBlank? s = some t) : ¬ AllBlank t := by
  obtain ⟨rfl, hne⟩ := (nonBlank?_eq_some_iff s t).1 h
  rw [← trim_eq_empty_iff, trim_trim]
  exact hne

/-! ## Trimming without the function -/

/-- Neither the first character nor the last one is blank. -/
structure Tight (s : String) : Prop where
  head : ∀ c, s.toList.head? = some c → isBlank c = false
  last : ∀ c, s.toList.getLast? = some c → isBlank c = false

/-- The first text is the second one between blanks, and the second one is tight. -/
structure Trims (s t : String) : Prop where
  around : ∃ before after, s.toList = before ++ t.toList ++ after ∧
    (∀ c ∈ before, isBlank c = true) ∧ ∀ c ∈ after, isBlank c = true
  tight : Tight t

theorem trimBlanks_append_left {before : List Char} (h : ∀ c ∈ before, isBlank c = true)
    (cs : List Char) : trimBlanks (before ++ cs) = trimBlanks cs := by
  rw [trimBlanks, List.dropWhile_append_of_pos h, trimBlanks]

theorem trimBlanks_append_right {after : List Char} (h : ∀ c ∈ after, isBlank c = true)
    (cs : List Char) : trimBlanks (cs ++ after) = trimBlanks cs := by
  have hreverse : ∀ c ∈ after.reverse, isBlank c = true := by simpa using h
  rw [trimBlanks, trimBlanks, List.dropWhile_append]
  cases hcs : cs.dropWhile isBlank with
  | nil =>
    have hafter : after.dropWhile isBlank = [] := List.dropWhile_eq_nil_iff.2 h
    simp [hafter]
  | cons c rest =>
    rw [List.isEmpty_cons, if_neg (by decide), List.reverse_append,
      List.dropWhile_append_of_pos hreverse]

theorem toList_trim (s : String) : (trim s).toList = trimBlanks s.toList := String.toList_ofList

theorem Tight.trim_eq {s : String} (h : Tight s) : trim s = s := by
  have hhead : s.toList.dropWhile isBlank = s.toList := by
    refine List.dropWhile_eq_self_iff.2 fun hlen => ?_
    simp [h.head _ (List.head?_eq_getElem? ▸ List.getElem?_eq_getElem hlen)]
  have hlast : s.toList.rdropWhile isBlank = s.toList := by
    refine List.rdropWhile_eq_self_iff.2 fun hne => ?_
    simp [h.last _ (List.getLast?_eq_some_getLast hne)]
  rw [trim, trimBlanks_eq_rdropWhile, hhead, hlast, String.ofList_toList]

theorem tight_trim (s : String) : Tight (trim s) := by
  constructor
  · intro c hc
    rw [toList_trim] at hc
    obtain ⟨cs, hcs⟩ := List.head?_eq_some_iff.1 hc
    have hself := List.dropWhile_eq_self_iff.1 (dropWhile_trimBlanks s.toList)
    simpa [hcs] using hself
  · intro c hc
    rw [toList_trim] at hc
    obtain ⟨hne, rfl⟩ := List.mem_getLast?_eq_getLast hc
    exact eq_false_of_ne_true (List.rdropWhile_last_not isBlank _ hne)

/-- A text is trimmed to the only tight text that it is between blanks. -/
theorem trims_iff (s t : String) : Trims s t ↔ trim s = t := by
  constructor
  · rintro ⟨⟨before, after, hs, hbefore, hafter⟩, htight⟩
    rw [trim, hs, trimBlanks_append_right hafter, trimBlanks_append_left hbefore]
    exact htight.trim_eq
  · rintro rfl
    refine ⟨⟨s.toList.takeWhile isBlank, (s.toList.dropWhile isBlank).rtakeWhile isBlank,
      ?_, ?_, ?_⟩, tight_trim s⟩
    · rw [toList_trim, trimBlanks_eq_rdropWhile, List.append_assoc,
        List.rdropWhile_append_rtakeWhile, List.takeWhile_append_dropWhile]
    · intro c hc
      exact List.mem_takeWhile_imp hc
    · intro c hc
      exact List.mem_rtakeWhile_imp hc

end OrgAccess.Text
