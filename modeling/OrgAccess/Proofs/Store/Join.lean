import OrgAccess.Proofs.Order
import OrgAccess.Proofs.Store.Integrity
import OrgAccess.Store.View

/-! The view as a join. In a store of integrity its rows are those of an active membership with
its org and its user, an entity the org is affiliated with and a product it is subscribed to,
where an absent value stands in for an entity or a product when there is none. -/

namespace OrgAccess

/-- The interval of an org holds the affiliations of the org and no others. -/
theorem Affiliation.contains_bounds_iff (org : OrgId) (a : Affiliation) :
    (bounds org).contains a = true ↔ a.orgId = org := by
  have hcontains : (bounds org).contains a = true ↔
      ¬ Precedes (a.orgId, a.entityId) (org, ⟨Int64.minValue⟩) ∧
        ¬ Precedes (org, ⟨Int64.maxValue⟩) (a.orgId, a.entityId) :=
    decide_eq_true_iff
  rw [hcontains, precedes_pair_iff, precedes_pair_iff]
  constructor
  · rintro ⟨hfirst, hlast⟩
    rcases precedes_trichotomy a.orgId org with h | h | h
    · exact absurd (Or.inl h) hfirst
    · exact h
    · exact absurd (Or.inl h) hlast
  · rintro rfl
    constructor
    · rintro (h | ⟨_, h⟩)
      · exact Precedes.irrefl _ h
      · exact not_precedes_minValue _ h
    · rintro (h | ⟨_, h⟩)
      · exact Precedes.irrefl _ h
      · exact not_maxValue_precedes _ h

namespace Store

/-- The org may act for the entity, which is in the store. -/
def Affiliated (s : Store) (org : OrgId) (entity : Entity) : Prop :=
  s.affiliations.find? ⟨org, entity.id⟩ = some () ∧ s.entities.find? entity.id = some entity

/-- The org has no affiliation at all. -/
def Unaffiliated (s : Store) (org : OrgId) : Prop :=
  ∀ entity, s.affiliations.find? ⟨org, entity⟩ = none

/-- The org holds an active subscription to the product. -/
def Subscribed (s : Store) (org : OrgId) (product : String) : Prop :=
  ∃ sub, s.subscriptions.find? (org, product) = some sub ∧ sub.isActive = true

/-- What the entity columns of the org's rows are filled from. -/
def EntityChoice (s : Store) (org : OrgId) : Option Entity → Prop
  | some entity => s.Affiliated org entity
  | none => s.Unaffiliated org

/-- What the product column of the org's rows is filled from. -/
def ProductChoice (s : Store) (org : OrgId) : Option String → Prop
  | some product => s.Subscribed org product
  | none => ∀ product, ¬ s.Subscribed org product

/-- The membership is in the store and active. -/
def Active (s : Store) (m : Membership) : Prop :=
  s.memberships.find? m.id = some m ∧ m.isActive = true

/-- These records meet in a row. -/
structure Joins (s : Store) (m : Membership) (org : Org) (user : User) (entity : Option Entity)
    (product : Option String) : Prop where
  active : s.Active m
  org : s.orgs.find? m.orgId = some org
  user : s.users.find? m.userId = some user
  entity : s.EntityChoice m.orgId entity
  product : s.ProductChoice m.orgId product

/-- A membership that is in the store is told by its identifier. -/
theorem Active.eq_of_id_eq {s : Store} {m n : Membership} (hm : s.Active m) (hn : s.Active n)
    (hid : m.id = n.id) : m = n := by
  have hfound := hm.1
  rw [hid, hn.1] at hfound
  exact (Option.some.inj hfound).symm

theorem mem_orAbsent_iff {α : Type} (xs : List α) (o : Option α) :
    o ∈ orAbsent xs ↔ (∃ x ∈ xs, o = some x) ∨ xs = [] ∧ o = none := by
  cases xs with
  | nil => simp [orAbsent]
  | cons x xs =>
    simp only [orAbsent, List.mem_map, reduceCtorEq, false_and, or_false]
    exact exists_congr fun y => and_congr_right fun _ => eq_comm

section Choices
variable {s : Store} (hs : s.Integrity) (org : OrgId)
include hs

/-- An affiliation leads to an entity that is in the store. -/
theorem exists_affiliated {i : EntityId} {u : Unit} (h : s.affiliations.find? ⟨org, i⟩ = some u) :
    ∃ e, e.id = i ∧ s.Affiliated org e := by
  obtain ⟨e, he⟩ := hs.affiliationEntity ⟨org, i⟩ u h
  have hid : e.id = i := hs.entitiesKeyed i e he
  subst hid
  exact ⟨e, rfl, h, he⟩

theorem mem_entitiesOf_iff (e : Entity) : e ∈ s.entitiesOf org ↔ s.Affiliated org e := by
  simp only [entitiesOf, List.mem_filterMap, List.mem_filter, Table.mem_keys_iff,
    Affiliation.contains_bounds_iff]
  constructor
  · rintro ⟨⟨o, i⟩, ⟨⟨_, ha⟩, rfl⟩, he⟩
    have hid : e.id = i := hs.entitiesKeyed i e he
    subst hid
    exact ⟨ha, he⟩
  · rintro ⟨ha, he⟩
    exact ⟨⟨org, e.id⟩, ⟨⟨(), ha⟩, rfl⟩, he⟩

/-- No entity is missing from the join, since every affiliation names one that is there. -/
theorem entitiesOf_eq_nil_iff : s.entitiesOf org = [] ↔ s.Unaffiliated org := by
  rw [List.eq_nil_iff_forall_not_mem]
  constructor
  · intro hnone i
    cases ha : s.affiliations.find? ⟨org, i⟩ with
    | none => rfl
    | some u =>
      obtain ⟨e, _, he⟩ := exists_affiliated hs org ha
      exact absurd ((mem_entitiesOf_iff hs org e).2 he) (hnone e)
  · intro hun e he
    have ha := ((mem_entitiesOf_iff hs org e).1 he).1
    rw [hun e.id] at ha
    cases ha

theorem mem_productsOf_iff (p : String) : p ∈ s.productsOf org ↔ s.Subscribed org p := by
  simp only [productsOf, List.mem_map, List.mem_filter, Table.mem_values_iff,
    decide_eq_true_eq]
  constructor
  · rintro ⟨sub, ⟨⟨k, hk⟩, rfl, hactive⟩, rfl⟩
    exact ⟨sub, hs.subscriptionsKeyed.find?_self hk, hactive⟩
  · rintro ⟨sub, hsub, hactive⟩
    obtain ⟨horg, hproduct⟩ := Prod.ext_iff.1 (hs.subscriptionsKeyed _ sub hsub)
    exact ⟨sub, ⟨⟨_, hsub⟩, horg, hactive⟩, hproduct⟩

theorem mem_orAbsent_entitiesOf_iff (o : Option Entity) :
    o ∈ orAbsent (s.entitiesOf org) ↔ s.EntityChoice org o := by
  rw [mem_orAbsent_iff, entitiesOf_eq_nil_iff hs]
  cases o with
  | none => simp [EntityChoice]
  | some e => simp [EntityChoice, mem_entitiesOf_iff hs]

theorem mem_orAbsent_productsOf_iff (o : Option String) :
    o ∈ orAbsent (s.productsOf org) ↔ s.ProductChoice org o := by
  rw [mem_orAbsent_iff, List.eq_nil_iff_forall_not_mem]
  cases o with
  | none => simp [ProductChoice, mem_productsOf_iff hs]
  | some p => simp [ProductChoice, mem_productsOf_iff hs]

end Choices

theorem mem_rowsOf_iff {s : Store} (hs : s.Integrity) {m : Membership} (hm : s.Active m)
    (row : Row) : row ∈ s.rowsOf m ↔
      ∃ org user e p, s.Joins m org user e p ∧ row = Row.join m org user e p := by
  obtain ⟨org, horg⟩ := hs.membershipOrg m.id m hm.1
  obtain ⟨user, huser⟩ := hs.membershipUser m.id m hm.1
  have hid : org.id = m.orgId := hs.orgsKeyed m.orgId org horg
  simp only [rowsOf, horg, huser, List.mem_flatMap, List.mem_map, hid,
    mem_orAbsent_entitiesOf_iff hs, mem_orAbsent_productsOf_iff hs]
  constructor
  · rintro ⟨e, he, p, hp, rfl⟩
    exact ⟨org, user, e, p, ⟨hm, horg, huser, he, hp⟩, rfl⟩
  · rintro ⟨org', user', e, p, hjoins, rfl⟩
    have ho : org' = org := Option.some.inj (hjoins.org.symm.trans horg)
    have hu : user' = user := Option.some.inj (hjoins.user.symm.trans huser)
    subst ho hu
    exact ⟨e, hjoins.entity, p, hjoins.product, rfl⟩

/-- The rows of the view are the joins of records. -/
theorem mem_rows_iff {s : Store} (hs : s.Integrity) (row : Row) :
    row ∈ s.rows ↔
      ∃ m org user e p, s.Joins m org user e p ∧ row = Row.join m org user e p := by
  simp only [rows, List.mem_flatMap, List.mem_filter, Table.mem_values_iff]
  constructor
  · rintro ⟨m, ⟨⟨k, hk⟩, hactive⟩, hrow⟩
    have hm : s.Active m := ⟨hs.membershipsKeyed.find?_self hk, hactive⟩
    exact ⟨m, (mem_rowsOf_iff hs hm row).1 hrow⟩
  · rintro ⟨m, org, user, e, p, hjoins, hrow⟩
    refine ⟨m, ⟨⟨m.id, hjoins.active.1⟩, hjoins.active.2⟩, ?_⟩
    exact (mem_rowsOf_iff hs hjoins.active row).2 ⟨org, user, e, p, hjoins, hrow⟩

end Store

end OrgAccess
