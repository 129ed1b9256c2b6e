import OrgAccess.Proofs.Row
import OrgAccess.Proofs.Selection
import OrgAccess.Proofs.Store.Join

/-! The winner of a filter, told by memberships. Rows are fanned out over entities and products,
but a membership qualifies as a whole, and the winning row is that of the first qualifying
membership with the first admitted entity of its org. -/

namespace OrgAccess

/-- What decides between memberships: the rank of the role, then the identifier. -/
def Membership.seniority (m : Membership) : Nat × MembershipId := (m.role.rank, m.id)

def Entity.business (e : Entity) : Business :=
  ⟨e.businessIdentifier, some e.corpTypeCode, e.name, e.folioNumber⟩

theorem Row.business_join (m : Membership) (org : Org) (user : User) (entity : Option Entity)
    (product : Option String) :
    (join m org user entity product).business = entity.map Entity.business := by
  cases entity <;> rfl

/-- A row precedes another by its membership, or by its business within one membership. -/
theorem Row.precedes_join_iff (m n : Membership) (org org' : Org) (user user' : User)
    (e f : Option Entity) (p q : Option String) :
    Precedes (join m org user e p).precedence (join n org' user' f q).precedence ↔
      Precedes m.seniority n.seniority ∨ m.seniority = n.seniority ∧
        Precedes (e.map (·.businessIdentifier)) (f.map (·.businessIdentifier)) := by
  show Precedes (m.role.rank, m.id, e.map (·.businessIdentifier))
    (n.role.rank, n.id, f.map (·.businessIdentifier)) ↔ _
  rw [precedes_pair_iff, precedes_pair_iff, precedes_pair_iff m.seniority]
  simp only [Membership.seniority, Prod.mk.injEq, and_assoc, and_or_left, or_assoc]

namespace Filter

/-- The filter admits rows with these entity columns. -/
def AdmitsEntity (filter : Filter) (entity : Option Entity) : Prop :=
  meets filter.businessIdentifier (entity.map (·.businessIdentifier)) = true ∧
    meetsOrAbsent filter.corpType (entity.map (·.corpTypeCode)) = true

theorem admits_join_iff (filter : Filter) (m : Membership) (org : Org) (user : User)
    (entity : Option Entity) (product : Option String) :
    filter.admits (Row.join m org user entity product) = true ↔
      (∀ g, filter.guid = some g → user.guid = g) ∧ (∀ o, filter.orgId = some o → org.id = o) ∧
        filter.AdmitsEntity entity ∧ meets filter.productCode product = true := by
  simp only [admits, Bool.and_eq_true, AdmitsEntity, meets_iff filter.guid,
    meets_iff filter.orgId, Row.join, Option.some.injEq]
  constructor
  · rintro ⟨⟨⟨⟨hguid, horg⟩, hident⟩, hproduct⟩, htype⟩
    exact ⟨hguid, horg, ⟨hident, htype⟩, hproduct⟩
  · rintro ⟨hguid, horg, ⟨hident, htype⟩, hproduct⟩
    exact ⟨⟨⟨⟨hguid, horg⟩, hident⟩, hproduct⟩, htype⟩

end Filter

namespace Store

/-- The membership is that of a user with the GUID. -/
def HeldBy (s : Store) (guid : Guid) (m : Membership) : Prop :=
  ∃ user, s.users.find? m.userId = some user ∧ user.guid = guid

/-- Among the rows of the membership is one that the filter admits. -/
structure Qualifies (s : Store) (filter : Filter) (m : Membership) : Prop where
  active : s.Active m
  user : ∀ g, filter.guid = some g → s.HeldBy g m
  org : ∀ o, filter.orgId = some o → m.orgId = o
  entity : ∃ e, s.EntityChoice m.orgId e ∧ filter.AdmitsEntity e
  product : ∃ p, s.ProductChoice m.orgId p ∧ Filter.meets filter.productCode p = true

section Winner
variable {s : Store} (hs : s.Integrity)
include hs

theorem Qualifies.of_joins {filter : Filter} {m : Membership} {org : Org} {user : User}
    {e : Option Entity} {p : Option String} (hjoins : s.Joins m org user e p)
    (hadmits : filter.admits (Row.join m org user e p) = true) : s.Qualifies filter m := by
  obtain ⟨hguid, horg, hentity, hproduct⟩ := (filter.admits_join_iff m org user e p).1 hadmits
  have hid : org.id = m.orgId := hs.orgsKeyed m.orgId org hjoins.org
  exact {
    active := hjoins.active
    user := fun g hg => ⟨user, hjoins.user, hguid g hg⟩
    org := fun o ho => hid.symm.trans (horg o ho)
    entity := ⟨e, hjoins.entity, hentity⟩
    product := ⟨p, hjoins.product, hproduct⟩ }

/-- Every admitted choice of an entity gives a qualifying membership a row that is admitted. -/
theorem Qualifies.exists_joins {filter : Filter} {m : Membership} (h : s.Qualifies filter m)
    {e : Option Entity} (he : s.EntityChoice m.orgId e) (hadmits : filter.AdmitsEntity e) :
    ∃ org user p, s.Joins m org user e p ∧
      filter.admits (Row.join m org user e p) = true := by
  obtain ⟨org, horg⟩ := hs.membershipOrg m.id m h.active.1
  obtain ⟨user, huser⟩ := hs.membershipUser m.id m h.active.1
  obtain ⟨p, hp, hproduct⟩ := h.product
  have hid : org.id = m.orgId := hs.orgsKeyed m.orgId org horg
  refine ⟨org, user, p, ⟨h.active, horg, huser, he, hp⟩, ?_⟩
  refine (filter.admits_join_iff m org user e p).2 ⟨?_, ?_, hadmits, hproduct⟩
  · intro g hg
    obtain ⟨user', huser', hguid⟩ := h.user g hg
    rw [huser] at huser'
    cases huser'
    exact hguid
  · intro o ho
    exact hid.trans (h.org o ho)

theorem mem_select_rows_iff (filter : Filter) (row : Row) :
    row ∈ filter.select s.rows ↔ ∃ m org user e p, s.Joins m org user e p ∧
      row = Row.join m org user e p ∧ filter.admits row = true := by
  rw [Filter.select, List.mem_filter, mem_rows_iff hs]
  constructor
  · rintro ⟨⟨m, org, user, e, p, hjoins, hrow⟩, hadmits⟩
    exact ⟨m, org, user, e, p, hjoins, hrow, hadmits⟩
  · rintro ⟨m, org, user, e, p, hjoins, hrow, hadmits⟩
    exact ⟨⟨m, org, user, e, p, hjoins, hrow⟩, hadmits⟩

/-- A qualifying membership is all it takes for a winner. -/
theorem fetch_isSome_iff (filter : Filter) :
    (s.fetch filter).isSome = true ↔ ∃ m, s.Qualifies filter m := by
  rw [← Option.ne_none_iff_isSome, fetch, Ne, Row.authoritative?_eq_none_iff]
  constructor
  · intro hne
    obtain ⟨row, hrow⟩ := List.exists_mem_of_ne_nil _ hne
    obtain ⟨m, org, user, e, p, hjoins, rfl, hadmits⟩ := (mem_select_rows_iff hs filter row).1 hrow
    exact ⟨m, Qualifies.of_joins hs hjoins hadmits⟩
  · rintro ⟨m, hm⟩ hnil
    obtain ⟨e, he, hadmits⟩ := hm.entity
    obtain ⟨org, user, p, hjoins, hrow⟩ := hm.exists_joins hs he hadmits
    have hmem : Row.join m org user e p ∈ filter.select s.rows :=
      (mem_select_rows_iff hs filter _).2 ⟨m, org, user, e, p, hjoins, rfl, hrow⟩
    rw [hnil] at hmem
    cases hmem

/-- Entities of one org are told apart by their business identifiers, and from no entity. -/
theorem entityChoice_injective {org : OrgId} {e f : Option Entity} (he : s.EntityChoice org e)
    (hf : s.EntityChoice org f)
    (h : f.map (·.businessIdentifier) = e.map (·.businessIdentifier)) : f = e := by
  cases e with
  | none =>
    cases f with
    | none => rfl
    | some f => simp at h
  | some e =>
    cases f with
    | none => simp at h
    | some f =>
      have hid : f.id = e.id := hs.oneIdentifier f.id e.id f e hf.2 he.2 (Option.some.inj h)
      have hsame : s.entities.find? e.id = some f := hid ▸ hf.2
      rw [he.2] at hsame
      exact hsame.symm

/-- The winner is the row of the first qualifying membership with its org, and with the first
entity of that org that the filter admits. Each of the two keys is least on its own, since every
admitted entity of a qualifying membership has its row in the list. -/
theorem fetch_eq_some {filter : Filter} {row : Row} (h : s.fetch filter = some row) :
    ∃ m org user e p, row = Row.join m org user e p ∧ s.orgs.find? m.orgId = some org ∧
      FirstBy Membership.seniority (s.Qualifies filter) m ∧
      FirstBy (Option.map (·.businessIdentifier))
        (fun e => s.EntityChoice m.orgId e ∧ filter.AdmitsEntity e) e := by
  obtain ⟨hmem, hleast⟩ := Row.authoritative?_least h
  obtain ⟨m, org, user, e, p, hjoins, rfl, hadmits⟩ := (mem_select_rows_iff hs filter row).1 hmem
  have hm : s.Qualifies filter m := Qualifies.of_joins hs hjoins hadmits
  have he : filter.AdmitsEntity e := ((filter.admits_join_iff m org user e p).1 hadmits).2.2.1
  have hkey : ∀ n f, s.Qualifies filter n → s.EntityChoice n.orgId f → filter.AdmitsEntity f →
      ¬ (Precedes n.seniority m.seniority ∨ n.seniority = m.seniority ∧
        Precedes (f.map (·.businessIdentifier)) (e.map (·.businessIdentifier))) := by
    intro n f hn hf hfadmits
    obtain ⟨org', user', q, hjoins', hadmits'⟩ := hn.exists_joins hs hf hfadmits
    have hrow : Row.join n org' user' f q ∈ filter.select s.rows :=
      (mem_select_rows_iff hs filter _).2 ⟨n, org', user', f, q, hjoins', rfl, hadmits'⟩
    rw [← Row.precedes_join_iff n m org' org user' user f e q p]
    exact hleast _ hrow
  refine ⟨m, org, user, e, p, rfl, hjoins.org, FirstBy.of_not_precedes hm ?_ ?_,
    FirstBy.of_not_precedes ⟨hjoins.entity, he⟩ ?_ ?_⟩
  · intro n hn hlt
    obtain ⟨f, hf, hfadmits⟩ := hn.entity
    exact hkey n f hn hf hfadmits (Or.inl hlt)
  · intro n hn heq
    exact hn.active.eq_of_id_eq hm.active (Prod.ext_iff.1 heq).2
  · rintro f ⟨hf, hfadmits⟩ hlt
    exact hkey m f hm hf hfadmits (Or.inr ⟨rfl, hlt⟩)
  · rintro f ⟨hf, _⟩ heq
    exact entityChoice_injective hs hjoins.entity hf heq

end Winner

end Store

end OrgAccess
