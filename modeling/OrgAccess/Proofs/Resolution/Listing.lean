import OrgAccess.Proofs.Permission
import OrgAccess.Proofs.Resolution.Answer

/-! The listing of a user's authorizations and the answers org by org. The listing folds all rows of
the user into one winner for each org and reads a table of just the roles that occur; an answer
selects the rows of one org and reads the whole table. Neither needs anything of the store: the
winner that the fold keeps for an org is the winner among the rows of that org. -/

namespace OrgAccess

namespace Filter

/-- Asking for an org beside other criteria is asking among the rows that meet these. -/
theorem select_org {filter : Filter} (hfree : filter.orgId = none) (org : OrgId)
    (rows : List Row) : select { filter with orgId := some org } rows =
      (filter.select rows).filter fun row => row.orgId = org := by
  rw [select, select, List.filter_filter]
  refine List.filter_congr ?_
  intro row _
  have horg : meets (some org) (some row.orgId) = decide (row.orgId = org) := by
    simp [meets, eq_comm]
  have hnone : meets (none : Option OrgId) (some row.orgId) = true := rfl
  simp only [admits, hfree, horg, hnone]
  cases decide (row.orgId = org) <;> simp

end Filter

namespace Store

/-- The winner that the fold keeps for an org is the winner on that org. -/
theorem find?_winners_select (s : Store) {filter : Filter} (hfree : filter.orgId = none)
    (org : OrgId) : ((filter.select s.rows).foldl Row.enter ∅).find? org =
      s.fetch { filter with orgId := some org } := by
  rw [Row.find?_winners, ← Filter.select_org hfree]
  rfl

/-- The winner listed for an org is the winner on that org. -/
theorem mem_fetchPerOrg_iff (s : Store) (filter : Filter) (hfree : filter.orgId = none)
    (row : Row) (org : OrgId) :
    row ∈ s.fetchPerOrg filter ∧ row.orgId = org ↔
      s.fetch { filter with orgId := some org } = some row := by
  rw [fetchPerOrg, Row.mem_authoritativePerOrg_iff, fetch, Filter.select_org hfree]
  constructor
  · rintro ⟨hrow, rfl⟩
    exact hrow
  · intro hrow
    have horg : row.orgId = org :=
      of_decide_eq_true (List.mem_filter.1 (Row.authoritative?_least hrow).1).2
    rw [horg]
    exact ⟨hrow, rfl⟩

end Store

/-- A table of the roles that occur grants each standing what the whole table does. -/
theorem Standing.allGrantedBy_eq (standings : List Standing) (table : PermissionTable) :
    allGrantedBy standings table = standings.map (·.grantedBy table) := by
  rw [allGrantedBy]
  refine List.map_congr_left ?_
  intro st hst
  have hrole : st.role ∈ (Table.ofKeys (standings.map (·.role))).keys :=
    (Table.mem_keys_ofKeys_iff _ _).2 (List.mem_map.2 ⟨st, hst, rfl⟩)
  rw [grantedBy, grantedBy, PermissionTable.actionsFor_restrictTo table hrole]

namespace Source

/-- The listing is what the whole table grants the standings of the user. -/
theorem resolveAll_of_standings (s : Store) (table : PermissionTable) (guid : Guid) :
    (inMemory s table).resolveAll guid =
      .ok ((s.standingsOf guid).map (·.grantedBy table)) := by
  rw [← Standing.allGrantedBy_eq]
  show (if (s.standingsOf guid).isEmpty then Except.ok []
    else Except.ok (Standing.allGrantedBy (s.standingsOf guid) table)) = _
  cases s.standingsOf guid with
  | nil => rfl
  | cons st standings => rfl

/-- The listing is what the whole table grants the winner of each org. -/
theorem resolveAll_inMemory (s : Store) (table : PermissionTable) (guid : Guid) :
    (inMemory s table).resolveAll guid =
      .ok ((s.fetchPerOrg { guid := some guid }).map (Authorization.grantedBy table)) := by
  rw [resolveAll_of_standings, Store.standingsOf, List.map_map]
  rfl

/-- The listing agrees with the answers org by org. Its orgs ascend strictly, an answer on an org
is an entry of that org and the other way round, and the actions of an entry are those that the
whole table grants its role at the status of its org. -/
theorem resolveAll_agrees (s : Store) (table : PermissionTable) (guid : Guid) :
    ∃ listing, (inMemory s table).resolveAll guid = .ok listing ∧
      (listing.Pairwise fun a b => a.account.orgId.value < b.account.orgId.value) ∧
      (∀ org, ∃ answer, (inMemory s table).answer (.userInOrg guid org) = .ok answer ∧
        ∀ a, answer = some a ↔ a ∈ listing ∧ a.account.orgId = org) ∧
      ∀ a ∈ listing, a.actions = table.actionsFor a.role a.account.status := by
  refine ⟨_, resolveAll_inMemory s table guid, ?_, ?_, ?_⟩
  · rw [List.pairwise_map]
    refine (Row.pairwise_authoritativePerOrg _).imp ?_
    intro r t hrt
    exact (precedes_id_iff r.orgId t.orgId).1 hrt
  · intro org
    refine ⟨_, answer_winner s table { guid := some guid, orgId := some org }, ?_⟩
    intro a
    rw [Option.map_eq_some_iff, List.mem_map]
    constructor
    · rintro ⟨row, hrow, rfl⟩
      obtain ⟨hmem, horg⟩ := (s.mem_fetchPerOrg_iff { guid := some guid } rfl row org).2 hrow
      exact ⟨⟨row, hmem, rfl⟩, horg⟩
    · rintro ⟨⟨row, hmem, rfl⟩, horg⟩
      exact ⟨row, (s.mem_fetchPerOrg_iff _ rfl row org).1 ⟨hmem, horg⟩, rfl⟩
  · intro a ha
    obtain ⟨row, _, rfl⟩ := List.mem_map.1 ha
    rfl

end Source

end OrgAccess
