import Mathlib.Data.List.Sort
import OrgAccess.Proofs.Order
import OrgAccess.Proofs.Row
import OrgAccess.Proofs.Table
import OrgAccess.Selection

/-! The row that speaks for a list of rows stands where every row before it has a greater key
and no row after it a lesser one, and a list may be gone through in parts. The winner of each
org is the row that speaks for the rows of that org alone. -/

namespace OrgAccess.Row

/-- `row` splits a list: the rows before it come later in precedence, those after it not
earlier. -/
structure Leads (row : Row) (before after : List Row) : Prop where
  before : ∀ r ∈ before, Precedes row.precedence r.precedence
  after : ∀ r ∈ after, ¬ Precedes r.precedence row.precedence

theorem leads_iff (row : Row) (before after : List Row) :
    row.Leads before after ↔ (∀ r ∈ before, Precedes row.precedence r.precedence) ∧
      ∀ r ∈ after, ¬ Precedes r.precedence row.precedence :=
  ⟨fun h => ⟨h.before, h.after⟩, fun h => ⟨h.1, h.2⟩⟩

/-- The winner of a fold is its start, if no row precedes it, and otherwise the leading row of
the list. -/
private theorem foldl_better (rows : List Row) (current : Row) :
    rows.foldl better current = current ∧
        (∀ r ∈ rows, ¬ Precedes r.precedence current.precedence) ∨
      Precedes (rows.foldl better current).precedence current.precedence ∧
        ∃ before after, rows = before ++ rows.foldl better current :: after ∧
          (rows.foldl better current).Leads before after := by
  induction rows generalizing current with
  | nil => exact Or.inl ⟨rfl, by simp⟩
  | cons next rows ih =>
    rw [List.foldl_cons]
    by_cases hlt : Precedes next.precedence current.precedence
    · rw [show better current next = next from if_pos hlt]
      rcases ih next with ⟨heq, hmin⟩ | ⟨hwin, before, after, hsplit, hlead⟩
      · rw [heq]
        exact Or.inr ⟨hlt, [], rows, rfl, by simp, hmin⟩
      · refine Or.inr ⟨hwin.trans hlt, next :: before, after, congrArg (next :: ·) hsplit, ?_⟩
        exact ⟨List.forall_mem_cons.2 ⟨hwin, hlead.before⟩, hlead.after⟩
    · rw [show better current next = current from if_neg hlt]
      rcases ih current with ⟨heq, hmin⟩ | ⟨hwin, before, after, hsplit, hlead⟩
      · exact Or.inl ⟨heq, List.forall_mem_cons.2 ⟨hlt, hmin⟩⟩
      · refine Or.inr ⟨hwin, next :: before, after, congrArg (next :: ·) hsplit, ?_⟩
        exact ⟨List.forall_mem_cons.2 ⟨hwin.of_not_precedes hlt, hlead.before⟩, hlead.after⟩

theorem authoritative?_eq_none_iff (rows : List Row) : authoritative? rows = none ↔ rows = [] := by
  cases rows <;> simp [authoritative?]

/-- The winner leads the list it is chosen from. -/
theorem authoritative?_leads {rows : List Row} {row : Row} (h : authoritative? rows = some row) :
    ∃ before after, rows = before ++ row :: after ∧ row.Leads before after := by
  cases rows with
  | nil => simp [authoritative?] at h
  | cons first rows =>
    have hrow : rows.foldl better first = row := Option.some.inj h
    subst hrow
    rcases foldl_better rows first with ⟨heq, hmin⟩ | ⟨hwin, before, after, hsplit, hlead⟩
    · rw [heq]
      exact ⟨[], rows, rfl, by simp, hmin⟩
    · refine ⟨first :: before, after, congrArg (first :: ·) hsplit, ?_⟩
      exact ⟨List.forall_mem_cons.2 ⟨hwin, hlead.before⟩, hlead.after⟩

/-- A list is split at a row that leads it in one way only: of two such rows, each would have to
give way to the other. -/
theorem Leads.unique {row other : Row} {before after before' after' : List Row}
    (h : row.Leads before after) (h' : other.Leads before' after')
    (hsplit : before ++ row :: after = before' ++ other :: after') :
    before = before' ∧ row = other := by
  rcases List.append_eq_append_iff.1 hsplit with
    ⟨between, hbefore, hafter⟩ | ⟨between, hbefore, hafter⟩
  · cases between with
    | nil => exact ⟨by simpa using hbefore.symm, (List.cons.inj hafter).1⟩
    | cons first between =>
      obtain ⟨rfl, rfl⟩ := List.cons.inj hafter
      exact absurd (h'.before row (by simp [hbefore])) (h.after other (by simp))
  · cases between with
    | nil => exact ⟨by simpa using hbefore, (List.cons.inj hafter).1.symm⟩
    | cons first between =>
      obtain ⟨rfl, rfl⟩ := List.cons.inj hafter
      exact absurd (h.before other (by simp [hbefore])) (h'.after row (by simp))

/-- The winner is the row that leads the list. -/
theorem authoritative?_eq_some_iff (rows : List Row) (row : Row) :
    authoritative? rows = some row ↔
      ∃ before after, rows = before ++ row :: after ∧ row.Leads before after := by
  constructor
  · exact authoritative?_leads
  · rintro ⟨before, after, rfl, hlead⟩
    cases hother : authoritative? (before ++ row :: after) with
    | none => simp [authoritative?_eq_none_iff] at hother
    | some other =>
      obtain ⟨before', after', hsplit, hlead'⟩ := authoritative?_leads hother
      rw [(hlead.unique hlead' hsplit).2]

/-- The winner among the rows that pass a test is found in the whole list by looking at these rows
alone. -/
theorem authoritative?_filter_eq_some_iff (rows : List Row) (p : Row → Bool) (row : Row) :
    authoritative? (rows.filter p) = some row ↔
      ∃ before after, rows = before ++ row :: after ∧ p row = true ∧
        row.Leads (before.filter p) (after.filter p) := by
  rw [authoritative?_eq_some_iff]
  constructor
  · rintro ⟨before, after, hsplit, hlead⟩
    obtain ⟨before, rest, rfl, rfl, hrest⟩ := List.filter_eq_append_iff.1 hsplit
    obtain ⟨others, after, rfl, hothers, hrow, rfl⟩ := List.filter_eq_cons_iff.1 hrest
    refine ⟨before ++ others, after, by simp, hrow, ?_⟩
    rwa [List.filter_append, List.filter_eq_nil_iff.2 hothers, List.append_nil]
  · rintro ⟨before, after, rfl, hrow, hlead⟩
    exact ⟨before.filter p, after.filter p, by simp [hrow], hlead⟩

/-- The winner is one of the rows, and no row precedes it. -/
theorem authoritative?_least {rows : List Row} {row : Row} (h : authoritative? rows = some row) :
    row ∈ rows ∧ ∀ r ∈ rows, ¬ Precedes r.precedence row.precedence := by
  obtain ⟨before, after, rfl, hlead⟩ := authoritative?_leads h
  refine ⟨by simp, ?_⟩
  intro r hr
  rcases List.mem_append.1 hr with hr | hr
  · exact (hlead.before r hr).asymm
  · rcases List.mem_cons.1 hr with rfl | hr
    · exact Precedes.irrefl _
    · exact hlead.after r hr

/-- Two orders of the same rows have the same winner, as far as a function tells that is the same
on rows of one key: each winner is in both lists, so neither precedes the other. -/
theorem map_authoritative?_of_perm {β : Type} {f : Row → β} {rows others : List Row}
    (hperm : rows.Perm others)
    (hties : ∀ r ∈ rows, ∀ t ∈ rows, r.precedence = t.precedence → f r = f t) :
    (authoritative? rows).map f = (authoritative? others).map f := by
  cases hr : authoritative? rows with
  | none =>
    have hnil : rows = [] := (authoritative?_eq_none_iff rows).1 hr
    subst hnil
    rw [List.nil_perm.1 hperm, (authoritative?_eq_none_iff []).2 rfl]
  | some r =>
    obtain ⟨hrmem, hrleast⟩ := authoritative?_least hr
    cases ht : authoritative? others with
    | none =>
      have hnil : others = [] := (authoritative?_eq_none_iff others).1 ht
      subst hnil
      rw [List.perm_nil.1 hperm] at hrmem
      cases hrmem
    | some t =>
      obtain ⟨htmem, htleast⟩ := authoritative?_least ht
      have htin : t ∈ rows := hperm.mem_iff.2 htmem
      have hkey : r.precedence = t.precedence := by
        rcases (not_precedes_iff _ _).1 (htleast r (hperm.mem_iff.1 hrmem)) with heq | hlt
        · exact heq
        · exact absurd hlt (hrleast t htin)
      exact congrArg some (hties r hrmem t htin hkey)

/-! ## The first of the rows of least key -/

theorem leads_iff_outranks (row : Row) (before after : List Row) :
    row.Leads before after ↔ (∀ r ∈ before, row.Outranks r) ∧
      ∀ r ∈ after, row.Outranks r ∨ row.precedence = r.precedence := by
  have hafter : ∀ r : Row, ¬ Precedes r.precedence row.precedence ↔
      row.Outranks r ∨ row.precedence = r.precedence := by
    intro r
    rw [not_precedes_iff, outranks_iff, or_comm, eq_comm]
  simp only [leads_iff, outranks_iff, hafter]

/-- It does not matter which of three rows are paired off first. -/
theorem better_assoc (a b c : Row) : better (better a b) c = better a (better b c) := by
  by_cases hba : Precedes b.precedence a.precedence
  · rw [show better a b = b from if_pos hba]
    by_cases hcb : Precedes c.precedence b.precedence
    · rw [show better b c = c from if_pos hcb]
      exact (if_pos (hcb.trans hba)).symm
    · rw [show better b c = b from if_neg hcb]
      exact (if_pos hba).symm
  · rw [show better a b = a from if_neg hba]
    by_cases hcb : Precedes c.precedence b.precedence
    · rw [show better b c = c from if_pos hcb]
    · rw [show better b c = b from if_neg hcb, show better a b = a from if_neg hba]
      have hca : ¬ Precedes c.precedence a.precedence :=
        fun hca => hcb (hca.of_not_precedes hba)
      exact if_neg hca

instance : Std.Associative better := ⟨better_assoc⟩

/-- The winner of two lists in a row is the winner of their winners. -/
theorem authoritative?_append (rows others : List Row) :
    authoritative? (rows ++ others) =
      authoritative? ((authoritative? rows).toList ++ (authoritative? others).toList) := by
  cases rows with
  | nil => cases others <;> rfl
  | cons row rows =>
    cases others with
    | nil => simp [authoritative?]
    | cons other others =>
      calc authoritative? (row :: rows ++ other :: others)
          = some (others.foldl better (better (rows.foldl better row) other)) := by
            simp [authoritative?]
        _ = some (better (rows.foldl better row) (others.foldl better other)) :=
            congrArg some List.foldl_assoc

/-- The choice among no rows is none, and that among any others is the first of those with the least
key: the row outranks every row before it, and each row after it is outranked or has the same key.
So the key that is chosen does not depend on the order of the rows, and the choice among two lists
in a row is the choice among their winners. -/
theorem first_of_least_key (rows : List Row) :
    (authoritative? rows = none ↔ rows = []) ∧
      (∀ row, authoritative? rows = some row ↔
        ∃ before after, rows = before ++ row :: after ∧ (∀ r ∈ before, row.Outranks r) ∧
          ∀ r ∈ after, row.Outranks r ∨ row.precedence = r.precedence) ∧
      (∀ others, rows.Perm others →
        (authoritative? rows).map precedence = (authoritative? others).map precedence) ∧
      ∀ others, authoritative? (rows ++ others) =
        authoritative? ((authoritative? rows).toList ++ (authoritative? others).toList) := by
  refine ⟨authoritative?_eq_none_iff rows, ?_, ?_, authoritative?_append rows⟩
  · intro row
    simp only [authoritative?_eq_some_iff, leads_iff_outranks]
  · intro others hperm
    exact map_authoritative?_of_perm hperm fun _ _ _ _ hkey => hkey

/-- A coordinator and a member share a key, and each is chosen where it stands before the other. The
choice between the winners of the two parts is the choice among all. -/
theorem first_of_least_key_sample :
    let coordinator := Filter.sampleRow .coordinator ⟨7⟩ (some "BC0000001")
    let member := Filter.sampleRow .member ⟨7⟩ (some "BC0000001")
    let front := [Filter.sampleRow .user ⟨1⟩ none, coordinator]
    let back := [Filter.sampleRow .member ⟨7⟩ (some "BC0000002"), member]
    (front ++ back).Perm (back ++ front) ∧
      authoritative? (front ++ back) = some coordinator ∧
      authoritative? (back ++ front) = some member ∧
      (authoritative? (front ++ back)).map precedence =
        (authoritative? (back ++ front)).map precedence ∧
      authoritative? (front ++ back) = authoritative? [coordinator, member] := by
  intro coordinator member front back
  obtain ⟨_, hfirst, hkey, _⟩ := first_of_least_key (front ++ back)
  obtain ⟨_, _, _, happend⟩ := first_of_least_key front
  have hperm : (front ++ back).Perm (back ++ front) := List.perm_append_comm
  refine ⟨hperm, (hfirst coordinator).2 ?_, by decide +kernel, hkey _ hperm, ?_⟩
  · refine ⟨[Filter.sampleRow .user ⟨1⟩ none], back, rfl, ?_, ?_⟩
    · rw [List.forall_mem_singleton]
      exact .role (by decide)
    · rw [List.forall_mem_cons, List.forall_mem_singleton]
      exact ⟨Or.inl (.business rfl rfl rfl rfl (by decide)), Or.inr rfl⟩
  · have hback : authoritative? back = some member := by decide +kernel
    have hfront : authoritative? front = some coordinator := by decide +kernel
    rw [happend, hfront, hback]
    rfl

/-! ## The winner of each org -/

/-- The fold over all rows keeps for an org what a choice among the rows of the org gives, with the
winner so far before the rows that are still to come. -/
theorem find?_foldl_enter (rows : List Row) (best : Table OrgId Row) (org : OrgId) :
    (rows.foldl enter best).find? org =
      authoritative? ((best.find? org).toList ++ rows.filter fun row => row.orgId = org) := by
  induction rows generalizing best with
  | nil => cases h : best.find? org <;> simp [authoritative?, h]
  | cons row rows ih =>
    rw [List.foldl_cons, ih, enter, Table.find?_alter]
    by_cases horg : row.orgId = org
    · subst horg
      cases h : best.find? row.orgId <;> simp [authoritative?]
    · have hne : ¬ org = row.orgId := fun heq => horg heq.symm
      simp [horg, hne]

theorem find?_winners (rows : List Row) (org : OrgId) :
    (rows.foldl enter ∅).find? org = authoritative? (rows.filter fun row => row.orgId = org) := by
  rw [find?_foldl_enter]
  rfl

/-- The winners stand under their own orgs. -/
theorem keyed_winners (rows : List Row) : (rows.foldl enter ∅).Keyed Row.orgId := by
  intro org row h
  rw [find?_winners] at h
  exact of_decide_eq_true (List.mem_filter.1 (authoritative?_least h).1).2

/-- A row is listed if and only if it is the winner among the rows of its org. -/
theorem mem_authoritativePerOrg_iff (rows : List Row) (row : Row) :
    row ∈ authoritativePerOrg rows ↔
      authoritative? (rows.filter fun r => r.orgId = row.orgId) = some row := by
  rw [authoritativePerOrg, Table.mem_values_iff, ← find?_winners]
  constructor
  · rintro ⟨org, h⟩
    exact (keyed_winners rows).find?_self h
  · intro h
    exact ⟨row.orgId, h⟩

/-- The winners are listed in the order of their orgs, one for each. -/
theorem pairwise_authoritativePerOrg (rows : List Row) :
    (authoritativePerOrg rows).Pairwise fun r t => Precedes r.orgId t.orgId :=
  (keyed_winners rows).pairwise_values

/-- The winners that are of one org are the choice among its rows. -/
theorem filter_authoritativePerOrg (rows : List Row) (org : OrgId) :
    (authoritativePerOrg rows).filter (fun row => row.orgId = org) =
      (authoritative? (rows.filter fun row => row.orgId = org)).toList := by
  have hirrefl : Std.Irrefl fun r t : Row => Precedes r.orgId t.orgId :=
    ⟨fun r => Precedes.irrefl r.orgId⟩
  have hantisymm : Std.Antisymm fun r t : Row => Precedes r.orgId t.orgId :=
    ⟨fun _ _ hrt htr => absurd htr hrt.asymm⟩
  have hone : ∀ winner : Option Row,
      winner.toList.Pairwise fun r t => Precedes r.orgId t.orgId := by
    intro winner
    cases winner <;> simp
  refine ((pairwise_authoritativePerOrg rows).filter _).eq_of_mem_iff (hone _) ?_
  intro row
  rw [List.mem_filter, mem_authoritativePerOrg_iff, decide_eq_true_eq, Option.mem_toList]
  constructor
  · rintro ⟨hrow, rfl⟩
    exact hrow
  · intro hrow
    have horg : row.orgId = org :=
      of_decide_eq_true (List.mem_filter.1 (authoritative?_least hrow).1).2
    subst horg
    exact ⟨hrow, rfl⟩

/-- The orgs that have a winner are those that occur. -/
theorem mem_orgs_authoritativePerOrg_iff (rows : List Row) (org : OrgId) :
    org ∈ (authoritativePerOrg rows).map Row.orgId ↔ org ∈ rows.map Row.orgId := by
  have hoccurs : ∀ l : List Row, org ∈ l.map Row.orgId ↔
      l.filter (fun row => row.orgId = org) ≠ [] := by
    intro l
    simp [List.filter_eq_nil_iff]
  rw [hoccurs, hoccurs, filter_authoritativePerOrg, Ne, Option.toList_eq_nil_iff,
    authoritative?_eq_none_iff]

/-- The winners of all orgs come out of one pass over the rows, but each of them is what the choice
among the rows of its org alone gives, also where rows are of one precedence. -/
theorem one_winner_for_each_org (rows : List Row) :
    let winners := authoritativePerOrg rows
    winners.Pairwise (fun r t => r.orgId.value < t.orgId.value) ∧
      (∀ org, org ∈ winners.map Row.orgId ↔ org ∈ rows.map Row.orgId) ∧
      (∀ org, winners.filter (fun row => row.orgId = org) =
        (authoritative? (rows.filter fun row => row.orgId = org)).toList) ∧
      ∀ row, row ∈ winners ↔ ∃ before after, rows = before ++ row :: after ∧
        row.Leads (before.filter fun r => r.orgId = row.orgId)
          (after.filter fun r => r.orgId = row.orgId) := by
  intro winners
  refine ⟨?_, mem_orgs_authoritativePerOrg_iff rows, filter_authoritativePerOrg rows, ?_⟩
  · exact (pairwise_authoritativePerOrg rows).imp fun h => (precedes_id_iff _ _).1 h
  · intro row
    rw [mem_authoritativePerOrg_iff, authoritative?_filter_eq_some_iff]
    simp

end OrgAccess.Row
