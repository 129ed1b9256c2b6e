import Mathlib.Logic.ExistsUnique
import OrgAccess.Authorization
import OrgAccess.Proofs.Permission
import OrgAccess.Proofs.Row
import OrgAccess.Proofs.Selection

/-! The guard of an action. Of the rows that satisfy a filter one speaks, and whether the action is
allowed depends on the rules about its role and status. No other row can help, and neither can it
harm. -/

namespace OrgAccess

namespace Row

/-- The row satisfies the filter, outranks the rows before it that do, and is outranked by none of
those after it. -/
def SpeaksFor (row : Row) (filter : Filter) (rows : List Row) : Prop :=
  ∃ before after, rows = before ++ row :: after ∧ row.Satisfies filter ∧
    (∀ r ∈ before, r.Satisfies filter → row.Outranks r) ∧
    ∀ r ∈ after, r.Satisfies filter → ¬ r.Outranks row

theorem speaksFor_iff (row : Row) (filter : Filter) (rows : List Row) :
    row.SpeaksFor filter rows ↔ authoritative? (filter.select rows) = some row := by
  rw [Filter.select, authoritative?_filter_eq_some_iff]
  refine exists_congr fun before => exists_congr fun after => and_congr_right fun _ => ?_
  simp only [leads_iff, List.mem_filter, filter.admits_iff, outranks_iff, and_imp]

/-- A row speaks as soon as there is one that satisfies the filter, and there are no two that do. -/
theorem existsUnique_speaksFor {filter : Filter} {rows : List Row}
    (h : ∃ row ∈ rows, row.Satisfies filter) : ∃! row : Row, row.SpeaksFor filter rows := by
  cases hwinner : authoritative? (filter.select rows) with
  | none =>
    obtain ⟨row, hrow, hsatisfies⟩ := h
    rw [authoritative?_eq_none_iff, Filter.select, List.filter_eq_nil_iff] at hwinner
    exact absurd ((filter.admits_iff row).2 hsatisfies) (hwinner row hrow)
  | some row =>
    refine ⟨row, (row.speaksFor_iff filter rows).2 hwinner, ?_⟩
    intro other hother
    exact Option.some.inj (((other.speaksFor_iff filter rows).1 hother).symm.trans hwinner)

/-- The row that speaks goes on to speak when one that it outranks comes in between. -/
theorem SpeaksFor.insert {row lower : Row} {filter : Filter} {before after : List Row}
    (h : row.SpeaksFor filter (before ++ after)) (hlower : row.Outranks lower) :
    row.SpeaksFor filter (before ++ lower :: after) := by
  obtain ⟨front, back, hsplit, hsatisfies, hfront, hback⟩ := h
  have hnot : ¬ lower.Outranks row := by
    rw [outranks_iff] at hlower ⊢
    exact hlower.asymm
  rcases List.append_eq_append_iff.1 hsplit with
    ⟨between, rfl, rfl⟩ | ⟨between, rfl, hrest⟩
  · refine ⟨before ++ lower :: between, back, by simp, hsatisfies, ?_, hback⟩
    rw [List.forall_mem_append] at hfront
    rw [List.forall_mem_append, List.forall_mem_cons]
    exact ⟨hfront.1, fun _ => hlower, hfront.2⟩
  · cases between with
    | nil =>
      obtain rfl : row :: back = after := hrest
      refine ⟨front ++ [lower], back, by simp, hsatisfies, ?_, hback⟩
      rw [List.forall_mem_append, List.forall_mem_singleton]
      exact ⟨hfront, fun _ => hlower⟩
    | cons first between =>
      rw [List.cons_append] at hrest
      obtain ⟨rfl, rfl⟩ := List.cons.inj hrest
      refine ⟨front, between ++ lower :: after, by simp, hsatisfies, hfront, ?_⟩
      rw [List.forall_mem_append] at hback
      rw [List.forall_mem_append, List.forall_mem_cons]
      exact ⟨hback.1, fun _ => hnot, hback.2⟩

end Row

/-- The guard of an action, asked about the rows that a filter selects. -/
def Filter.guard (filter : Filter) (rows : List Row) (table : PermissionTable) (action : Action) :
    Except GuardFault Unit :=
  requireAction (Authorization.ofRows? (filter.select rows) table) action

namespace Filter

variable {filter : Filter} {rows : List Row} {table : PermissionTable} {action : Action}

theorem guard_of_speaksFor {row : Row} (h : row.SpeaksFor filter rows) (table : PermissionTable)
    (action : Action) : filter.guard rows table action =
      if action ∈ table.actionsFor row.role row.orgStatus then .ok ()
      else .error (.forbidden action) := by
  rw [guard, Authorization.ofRows?, (row.speaksFor_iff filter rows).1 h]
  simp [requireAction, Authorization.hasAction, Authorization.grantedBy, Authorization.ofRow]

theorem guard_of_nobody (h : ∀ row ∈ rows, ¬ row.Satisfies filter) (table : PermissionTable)
    (action : Action) : filter.guard rows table action = .error .notAMember := by
  have hselect : filter.select rows = [] := by
    refine List.filter_eq_nil_iff.2 fun row hrow => ?_
    exact mt (filter.admits_iff row).1 (h row hrow)
  rw [guard, hselect]
  rfl

theorem guard_eq_notAMember_iff :
    filter.guard rows table action = .error .notAMember ↔
      ∀ row ∈ rows, ¬ row.Satisfies filter := by
  constructor
  · intro hguard row hrow hsatisfies
    obtain ⟨speaker, hspeaks, _⟩ := Row.existsUnique_speaksFor ⟨row, hrow, hsatisfies⟩
    rw [guard_of_speaksFor hspeaks] at hguard
    split at hguard <;> cases hguard
  · intro hnobody
    exact guard_of_nobody hnobody table action

theorem guard_eq_ok_iff {row : Row} (h : row.SpeaksFor filter rows) :
    filter.guard rows table action = .ok () ↔
      ∃ rule ∈ table.rules, rule.Grants row.role row.orgStatus action := by
  rw [guard_of_speaksFor h, ← table.mem_actionsFor_iff]
  split
  · rename_i hmem
    exact iff_of_true rfl hmem
  · rename_i hmem
    exact iff_of_false nofun hmem

theorem guard_eq_forbidden_iff {row : Row} (h : row.SpeaksFor filter rows) :
    filter.guard rows table action = .error (.forbidden action) ↔
      ¬ ∃ rule ∈ table.rules, rule.Grants row.role row.orgStatus action := by
  rw [guard_of_speaksFor h, ← table.mem_actionsFor_iff]
  split
  · rename_i hmem
    exact iff_of_false nofun (not_not.2 hmem)
  · rename_i hmem
    exact iff_of_true rfl hmem

/-- Whoever is allowed an action has somebody to speak. -/
theorem exists_speaksFor_of_guard (h : filter.guard rows table action = .ok ()) :
    ∃ row : Row, row.SpeaksFor filter rows := by
  by_cases hsome : ∃ row ∈ rows, row.Satisfies filter
  · exact (Row.existsUnique_speaksFor hsome).exists
  · rw [guard_of_nobody (by simpa using hsome)] at h
    cases h

/-- Added rules take no action away. -/
theorem guard_foldl_push (h : filter.guard rows table action = .ok ())
    (rules : List PermissionRule) :
    filter.guard rows (rules.foldl PermissionTable.push table) action = .ok () := by
  obtain ⟨row, hspeaks⟩ := exists_speaksFor_of_guard h
  obtain ⟨rule, hrule, hgrants⟩ := (guard_eq_ok_iff hspeaks).1 h
  refine (guard_eq_ok_iff hspeaks).2 ⟨rule, ?_, hgrants⟩
  rw [PermissionTable.rules_foldl_push]
  exact List.mem_append_left rules hrule

/-- The guard of an action finds nobody just when no row satisfies the filter. Otherwise one row
speaks, the first of least rank, membership and business, and the action is allowed just when a rule
grants it to the role of this row in the status of its org, and forbidden if not. So a row that is
outranked changes nothing, whatever its role is granted, and added rules forbid nothing that was
allowed. -/
theorem guard_decided_by_speaker (filter : Filter) (rows : List Row) (table : PermissionTable)
    (action : Action) :
    (filter.guard rows table action = .error .notAMember ↔
        ∀ row ∈ rows, ¬ row.Satisfies filter) ∧
      ((∃ row ∈ rows, row.Satisfies filter) → ∃! row : Row, row.SpeaksFor filter rows) ∧
      (∀ row : Row, row.SpeaksFor filter rows →
        (filter.guard rows table action = .ok () ↔
          ∃ rule ∈ table.rules, rule.Grants row.role row.orgStatus action) ∧
        (filter.guard rows table action = .error (.forbidden action) ↔
          ¬ ∃ rule ∈ table.rules, rule.Grants row.role row.orgStatus action) ∧
        ∀ (lower : Row) (before after : List Row), rows = before ++ after → row.Outranks lower →
          filter.guard (before ++ lower :: after) table action =
            filter.guard rows table action) ∧
      ∀ rules : List PermissionRule, filter.guard rows table action = .ok () →
        filter.guard rows (rules.foldl PermissionTable.push table) action = .ok () := by
  refine ⟨guard_eq_notAMember_iff, Row.existsUnique_speaksFor, ?_,
    fun rules h => guard_foldl_push h rules⟩
  intro row hspeaks
  refine ⟨guard_eq_ok_iff hspeaks, guard_eq_forbidden_iff hspeaks, ?_⟩
  rintro lower before after rfl hlower
  rw [guard_of_speaksFor hspeaks, guard_of_speaksFor (hspeaks.insert hlower)]

/-- A member speaks for the org, who has the rank of a coordinator but not the actions. A
coordinator of a later membership, who might edit alone, is no help. -/
theorem guard_decided_by_speaker_sample :
    let filter : Filter := { orgId := some ⟨1⟩, corpType := some "BC" }
    let speaker := sampleRow .member ⟨4⟩ (some "BC0000001")
    let helper := sampleRow .coordinator ⟨9⟩ none
    let rows := [sampleRow ⟨"AUDITOR"⟩ ⟨1⟩ none, sampleRow .member ⟨4⟩ (some "BC0000002"), speaker]
    (∃! row : Row, row.SpeaksFor filter rows) ∧ speaker.SpeaksFor filter rows ∧
      speaker.Outranks helper ∧
      filter.guard rows .seed ⟨"edit"⟩ = .error (.forbidden ⟨"edit"⟩) ∧
      filter.guard [helper] .seed ⟨"edit"⟩ = .ok () ∧
      filter.guard (helper :: rows) .seed ⟨"edit"⟩ = .error (.forbidden ⟨"edit"⟩) ∧
      filter.guard rows .seed ⟨"view"⟩ = .ok () ∧
      filter.guard rows (PermissionTable.sampleRules.foldl PermissionTable.push .seed) ⟨"view"⟩ =
        .ok () := by
  intro filter speaker helper rows
  have hspeaks : speaker.SpeaksFor filter rows :=
    (speaker.speaksFor_iff filter rows).2 (by decide +kernel)
  have hsatisfies : speaker.Satisfies filter := (filter.admits_iff speaker).1 (by decide +kernel)
  have hlower : speaker.Outranks helper := .membership rfl (by decide)
  obtain ⟨_, hone, hedit, _⟩ := guard_decided_by_speaker filter rows .seed ⟨"edit"⟩
  obtain ⟨_, hforbidden, hlowers⟩ := hedit speaker hspeaks
  obtain ⟨_, _, hview, hgrown⟩ := guard_decided_by_speaker filter rows .seed ⟨"view"⟩
  have hgrants : ∃ rule ∈ PermissionTable.seed.rules, rule.Grants .member .active ⟨"view"⟩ :=
    (PermissionTable.seed.mem_actionsFor_iff _ _ _).1 (by decide +kernel)
  have hnone : ¬ ∃ rule ∈ PermissionTable.seed.rules, rule.Grants .member .active ⟨"edit"⟩ :=
    mt (PermissionTable.seed.mem_actionsFor_iff _ _ _).2 (by decide +kernel)
  have hviewed : filter.guard rows .seed ⟨"view"⟩ = .ok () := (hview speaker hspeaks).1.2 hgrants
  have hedited : filter.guard rows .seed ⟨"edit"⟩ = .error (.forbidden ⟨"edit"⟩) :=
    hforbidden.2 hnone
  exact ⟨hone ⟨speaker, by simp [rows], hsatisfies⟩, hspeaks, hlower, hedited, by decide +kernel,
    (hlowers helper [] rows rfl hlower).trans hedited, hviewed,
    hgrown PermissionTable.sampleRules hviewed⟩

end Filter

end OrgAccess
