import Mathlib.Data.List.Sort
import OrgAccess.Permission
import OrgAccess.Proofs.Order
import OrgAccess.Proofs.Table

/-! Permission tables. A role is granted what the rules about it grant, listed in one way whatever
the order of the rules, and rules that are added take nothing away. A table that is cut down to some
roles grants these the same. -/

namespace OrgAccess

/-- The list holds the actions of this kind and no others, each one once, and their names come in
code-point order. -/
structure Action.Lists (actions : List Action) (P : Action → Prop) : Prop where
  ascending : actions.Pairwise fun a b => a.name < b.name
  mem_iff : ∀ action, action ∈ actions ↔ P action

namespace Action.Lists

variable {actions : List Action} {P Q : Action → Prop}

/-- There is one way to list the actions of a kind. -/
theorem unique {actions' : List Action} (h : Lists actions P) (h' : Lists actions' P) :
    actions = actions' := by
  have hirrefl : Std.Irrefl fun a b : Action => a.name < b.name :=
    ⟨fun a => String.lt_irrefl a.name⟩
  have hantisymm : Std.Antisymm fun a b : Action => a.name < b.name :=
    ⟨fun _ _ hab hba => absurd hba (String.lt_asymm hab)⟩
  refine h.ascending.eq_of_mem_iff h'.ascending ?_
  intro action
  rw [h.mem_iff, h'.mem_iff]

theorem congr (h : Lists actions P) (hPQ : ∀ action, P action ↔ Q action) : Lists actions Q :=
  ⟨h.ascending, fun action => (h.mem_iff action).trans (hPQ action)⟩

end Action.Lists

/-- The rule is about the role, holds in the status or in any, and grants the action. -/
structure PermissionRule.Grants (rule : PermissionRule) (role : Role) (status : OrgStatus)
    (action : Action) : Prop where
  role : rule.role = role
  status : rule.orgStatus = none ∨ rule.orgStatus = some status
  action : rule.action = action

theorem PermissionRule.grants_iff (rule : PermissionRule) (role : Role) (status : OrgStatus)
    (action : Action) : rule.Grants role status action ↔
      rule.appliesTo role status = true ∧ rule.action = action := by
  rw [appliesTo, decide_eq_true_eq]
  constructor
  · rintro ⟨hrole, hstatus, haction⟩
    exact ⟨⟨hrole, hstatus⟩, haction⟩
  · rintro ⟨⟨hrole, hstatus⟩, haction⟩
    exact ⟨hrole, hstatus, haction⟩

namespace PermissionTable

/-- An action is granted when a rule grants it. -/
theorem mem_actionsFor_iff (table : PermissionTable) (role : Role) (status : OrgStatus)
    (action : Action) : action ∈ table.actionsFor role status ↔
      ∃ rule ∈ table.rules, rule.Grants role status action := by
  simp only [actionsFor, rulesFor, Table.mem_keys_ofKeys_iff, List.mem_map, List.mem_filter,
    and_assoc, PermissionRule.grants_iff]

theorem lists_actionsFor (table : PermissionTable) (role : Role) (status : OrgStatus) :
    Action.Lists (table.actionsFor role status)
      fun action => ∃ rule ∈ table.rules, rule.Grants role status action := by
  refine ⟨(Table.pairwise_keys _).imp ?_, table.mem_actionsFor_iff role status⟩
  intro a b h
  exact (precedes_string_iff a.name b.name).1 h

/-- Tables with the same rules about a role grant it the same, in whatever order they have them
and how often. -/
theorem actionsFor_congr {table table' : PermissionTable} {role : Role}
    (h : ∀ rule, rule.role = role → (rule ∈ table'.rules ↔ rule ∈ table.rules))
    (status : OrgStatus) : table'.actionsFor role status = table.actionsFor role status := by
  refine (table'.lists_actionsFor role status).unique
    ((table.lists_actionsFor role status).congr ?_)
  intro action
  constructor
  · rintro ⟨rule, hrule, hgrants⟩
    exact ⟨rule, (h rule hgrants.role).2 hrule, hgrants⟩
  · rintro ⟨rule, hrule, hgrants⟩
    exact ⟨rule, (h rule hgrants.role).1 hrule, hgrants⟩

/-! ## Parts of tables -/

/-- A part of a table that keeps all the rules about a role grants it the same. -/
theorem actionsFor_filter (table : PermissionTable) {keep : PermissionRule → Bool} {role : Role}
    (h : ∀ rule : PermissionRule, rule.role = role → keep rule = true) (status : OrgStatus) :
    actionsFor ⟨table.rules.filter keep⟩ role status = table.actionsFor role status := by
  refine actionsFor_congr ?_ status
  intro rule hrole
  rw [List.mem_filter, and_iff_left (h rule hrole)]

/-- The rules of other roles may be left out. -/
theorem actionsFor_restrictTo (table : PermissionTable) {roles : List Role} {role : Role}
    (h : role ∈ roles) (status : OrgStatus) :
    (table.restrictTo roles).actionsFor role status = table.actionsFor role status := by
  refine table.actionsFor_filter ?_ status
  rintro rule rfl
  simpa using h

/-- The table without the rules of a role. -/
def without (table : PermissionTable) (role : Role) : PermissionTable :=
  ⟨table.rules.filter fun rule => rule.role ≠ role⟩

/-- The rules of one role are not missed by another. -/
theorem actionsFor_without (table : PermissionTable) {role other : Role} (h : role ≠ other)
    (status : OrgStatus) : (table.without other).actionsFor role status =
      table.actionsFor role status := by
  refine table.actionsFor_filter ?_ status
  rintro rule rfl
  simpa using h

/-! ## Tables that grow -/

/-- Rules that are added one by one stand after those of the table. -/
theorem rules_foldl_push (table : PermissionTable) (rules : List PermissionRule) :
    (rules.foldl push table).rules = table.rules ++ rules := by
  induction rules generalizing table with
  | nil => simp
  | cons rule rules ih =>
    rw [List.foldl_cons, ih, push]
    simp

/-- What the rules that are added grant is added to what the table grants. -/
theorem lists_foldl_push (table : PermissionTable) (rules : List PermissionRule) (role : Role)
    (status : OrgStatus) :
    Action.Lists ((rules.foldl push table).actionsFor role status) fun action =>
      action ∈ table.actionsFor role status ∨ ∃ rule ∈ rules, rule.Grants role status action := by
  refine ((rules.foldl push table).lists_actionsFor role status).congr ?_
  intro action
  rw [rules_foldl_push, mem_actionsFor_iff]
  simp only [List.mem_append, or_and_right, exists_or]

/-- Rules about other roles change nothing for a role. -/
theorem actionsFor_foldl_push (table : PermissionTable) {rules : List PermissionRule} {role : Role}
    (h : ∀ rule ∈ rules, rule.role ≠ role) (status : OrgStatus) :
    (rules.foldl push table).actionsFor role status = table.actionsFor role status := by
  refine actionsFor_congr ?_ status
  intro rule hrole
  rw [rules_foldl_push, List.mem_append]
  exact or_iff_left fun hrule => h rule hrule hrole

/-- For every role and status a table lists, once each and in code-point order, the actions that
one of its rules grants. So the list depends on which rules there are, and not on their order or
number. After any rules are added, one after another, the earlier rules are all there, in front and
as they were, the list is that of the actions that were granted before or that an added rule
grants, and it is the old list for every role that none of them is about. -/
theorem sorted_union_that_grows (table : PermissionTable) :
    (∀ role status, Action.Lists (table.actionsFor role status)
        fun action => ∃ rule ∈ table.rules, rule.Grants role status action) ∧
      (∀ table' : PermissionTable, (∀ rule, rule ∈ table'.rules ↔ rule ∈ table.rules) →
        ∀ role status, table'.actionsFor role status = table.actionsFor role status) ∧
      ∀ rules : List PermissionRule,
        let grown := rules.foldl push table
        grown.rules = table.rules ++ rules ∧
          ∀ role status,
            (Action.Lists (grown.actionsFor role status) fun action =>
              action ∈ table.actionsFor role status ∨
                ∃ rule ∈ rules, rule.Grants role status action) ∧
            ((∀ rule ∈ rules, rule.role ≠ role) →
              grown.actionsFor role status = table.actionsFor role status) := by
  refine ⟨table.lists_actionsFor, ?_, ?_⟩
  · intro table' hsame role status
    exact actionsFor_congr (fun rule _ => hsame rule) status
  · intro rules grown
    refine ⟨table.rules_foldl_push rules, ?_⟩
    intro role status
    exact ⟨table.lists_foldl_push rules role status,
      fun hroles => table.actionsFor_foldl_push hroles status⟩

/-- Rules for coordinators, of which the second one adds nothing. -/
def sampleRules : List PermissionRule :=
  [⟨.coordinator, some .suspended, ⟨"ask-for-review"⟩⟩, ⟨.coordinator, some .suspended, ⟨"view"⟩⟩]

/-- The rules at the start may be in reverse. The added rules show in the one status, in their place
by name, and users are granted what they were. -/
theorem sorted_union_that_grows_sample :
    let grown := sampleRules.foldl push seed
    (∀ rule, rule ∈ seed.rules.reverse ↔ rule ∈ seed.rules) ∧
      (∀ role status, actionsFor ⟨seed.rules.reverse⟩ role status = seed.actionsFor role status) ∧
      grown.actionsFor .coordinator .suspended =
        [⟨"ask-for-review"⟩, ⟨"edit"⟩, ⟨"invite-members"⟩, ⟨"view"⟩, ⟨"view-statements"⟩] ∧
      (∀ rule ∈ sampleRules, rule.role ≠ .user) ∧
      ∀ status, grown.actionsFor .user status = seed.actionsFor .user status := by
  intro grown
  obtain ⟨_, hsame, hgrows⟩ := sorted_union_that_grows seed
  obtain ⟨_, hgrown⟩ := hgrows sampleRules
  have hreverse : ∀ rule, rule ∈ seed.rules.reverse ↔ rule ∈ seed.rules := fun _ => List.mem_reverse
  have hroles : ∀ rule ∈ sampleRules, rule.role ≠ .user := by decide
  exact ⟨hreverse, hsame ⟨seed.rules.reverse⟩ hreverse, by decide +kernel, hroles,
    fun status => (hgrown .user status).2 hroles⟩

/-! ## Tables of some roles -/

theorem mem_rules_restrictTo_iff (table : PermissionTable) (roles : List Role)
    (rule : PermissionRule) : rule ∈ (table.restrictTo roles).rules ↔
      rule ∈ table.rules ∧ rule.role ∈ roles := by
  rw [restrictTo, List.mem_filter, List.contains_iff_mem]

/-- A rule stands in the table as often as before, or not at all. -/
theorem count_rules_restrictTo (table : PermissionTable) (roles : List Role)
    (rule : PermissionRule) : (table.restrictTo roles).rules.count rule =
      if rule.role ∈ roles then table.rules.count rule else 0 := by
  split
  · rename_i hrole
    exact List.count_filter (List.contains_iff_mem.2 hrole)
  · rename_i hrole
    rw [List.count_eq_zero, mem_rules_restrictTo_iff]
    exact fun hrule => hrole hrule.2

/-- Nothing is granted to a role that is not listed. -/
theorem actionsFor_restrictTo_of_not_mem (table : PermissionTable) {roles : List Role} {role : Role}
    (h : role ∉ roles) (status : OrgStatus) :
    (table.restrictTo roles).actionsFor role status = [] := by
  rw [List.eq_nil_iff_forall_not_mem]
  intro action haction
  obtain ⟨rule, hrule, hgrants⟩ := (mem_actionsFor_iff _ role status action).1 haction
  obtain ⟨_, hlisted⟩ := (table.mem_rules_restrictTo_iff roles rule).1 hrule
  exact h (hgrants.role ▸ hlisted)

/-- It matters which roles are listed, and not in what order or how often. -/
theorem restrictTo_congr (table : PermissionTable) {roles roles' : List Role}
    (h : ∀ role, role ∈ roles' ↔ role ∈ roles) :
    table.restrictTo roles' = table.restrictTo roles := by
  refine congrArg PermissionTable.mk (List.filter_congr ?_)
  intro rule _
  rw [Bool.eq_iff_iff, List.contains_iff_mem, List.contains_iff_mem, h]

theorem restrictTo_restrictTo (table : PermissionTable) (roles roles' : List Role) :
    (table.restrictTo roles).restrictTo roles' = table.restrictTo (roles ∩ roles') := by
  refine congrArg PermissionTable.mk ((List.filter_filter ..).trans (List.filter_congr ?_))
  intro rule _
  rw [Bool.eq_iff_iff, Bool.and_eq_true, List.contains_iff_mem, List.contains_iff_mem,
    List.contains_iff_mem, List.mem_inter_iff, and_comm]

theorem restrictTo_push (table : PermissionTable) (roles : List Role) (rule : PermissionRule) :
    (table.push rule).restrictTo roles =
      if rule.role ∈ roles then (table.restrictTo roles).push rule else table.restrictTo roles := by
  split
  · rename_i hrole
    simp [restrictTo, push, hrole]
  · rename_i hrole
    simp [restrictTo, push, hrole]

/-- A table that is cut down to some roles grants these what the whole table does, and nothing to
any other role. Of the whole table it has the rules about these roles, each one as often as it is
there and all in the same order. So it is settled by which roles are listed: they may be put in
order first, once each. A table that is cut down twice is cut down to the roles of both lists, and
a rule that is added to the whole table is added to the smaller one just when its role is listed. -/
theorem restriction_loses_nothing (table : PermissionTable) (roles : List Role) :
    let ordered := (Table.ofKeys roles).keys
    (∀ role status, (table.restrictTo roles).actionsFor role status =
        if role ∈ roles then table.actionsFor role status else []) ∧
      ((table.restrictTo roles).rules.Sublist table.rules ∧
        ∀ rule, (table.restrictTo roles).rules.count rule =
          if rule.role ∈ roles then table.rules.count rule else 0) ∧
      (∀ roles' : List Role, (∀ role, role ∈ roles' ↔ role ∈ roles) →
        table.restrictTo roles' = table.restrictTo roles) ∧
      (ordered.Pairwise (fun r t => r.code < t.code) ∧
        table.restrictTo ordered = table.restrictTo roles) ∧
      (∀ roles' : List Role,
        (table.restrictTo roles).restrictTo roles' = table.restrictTo (roles ∩ roles')) ∧
      ∀ rule, (table.push rule).restrictTo roles =
        if rule.role ∈ roles then (table.restrictTo roles).push rule
        else table.restrictTo roles := by
  intro ordered
  refine ⟨?_, ⟨List.filter_sublist, table.count_rules_restrictTo roles⟩,
    fun _ hsame => table.restrictTo_congr hsame, ⟨?_, ?_⟩, table.restrictTo_restrictTo roles,
    table.restrictTo_push roles⟩
  · intro role status
    split
    · rename_i hrole
      exact table.actionsFor_restrictTo hrole status
    · rename_i hrole
      exact table.actionsFor_restrictTo_of_not_mem hrole status
  · refine (Table.pairwise_keys _).imp ?_
    intro r t h
    exact (precedes_string_iff r.code t.code).1 h
  · exact table.restrictTo_congr (Table.mem_keys_ofKeys_iff roles)

/-- Users and staff, listed in two ways, from a table with a rule more: it shows where staff are
listed, and coordinators are granted nothing. -/
theorem restriction_loses_nothing_sample :
    let added : PermissionRule := ⟨.staff, some .suspended, ⟨"ask-for-review"⟩⟩
    let small := (seed.push added).restrictTo [.user, .staff, .user]
    (∀ role, role ∈ [Role.staff, .user] ↔ role ∈ [Role.user, .staff, .user]) ∧
      (seed.push added).restrictTo [.staff, .user] = small ∧
      small = (seed.restrictTo [.user, .staff, .user]).push added ∧
      (seed.push added).restrictTo [.user, .coordinator] = seed.restrictTo [.user, .coordinator] ∧
      small.actionsFor .staff .suspended =
        [⟨"ask-for-review"⟩, ⟨"transaction_history"⟩, ⟨"view"⟩, ⟨"view-statements"⟩] ∧
      (seed.push added).actionsFor .coordinator .active ≠ [] ∧
      small.actionsFor .coordinator .active = [] := by
  intro added small
  obtain ⟨hactions, _, hsame, _⟩ :=
    restriction_loses_nothing (seed.push added) [.user, .staff, .user]
  obtain ⟨_, _, _, _, _, hlisted⟩ := restriction_loses_nothing seed [.user, .staff, .user]
  obtain ⟨_, _, _, _, _, hmissing⟩ := restriction_loses_nothing seed [.user, .coordinator]
  have hroles : ∀ role, role ∈ [Role.staff, .user] ↔ role ∈ [Role.user, .staff, .user] := by
    intro role
    simp only [List.mem_cons, List.not_mem_nil, or_false]
    tauto
  refine ⟨hroles, hsame _ hroles, hlisted added, hmissing added, ?_, by decide +kernel,
    hactions .coordinator .active⟩
  rw [hactions]
  decide +kernel

end PermissionTable

end OrgAccess
