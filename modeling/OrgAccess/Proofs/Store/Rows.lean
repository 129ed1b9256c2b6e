import OrgAccess.Proofs.Store.Winner

/-! The view holds every join once. Within a membership the rows differ in the business or the
product, and rows of two memberships differ in the membership, so no row is lost or repeated. -/

namespace OrgAccess

namespace Row

/-- What tells the rows of a view apart: the membership, the business and the product. -/
def key (row : Row) : MembershipId × Option String × Option String :=
  (row.membershipId, row.businessIdentifier, row.productCode)

/-- Every column of the row is copied from one of the records. -/
structure CopiedFrom (row : Row) (m : Membership) (org : Org) (user : User)
    (entity : Option Entity) (product : Option String) : Prop where
  membershipId : row.membershipId = m.id
  role : row.role = m.role
  guid : row.guid = user.guid
  account : row.account = org.account
  business : row.business = entity.map Entity.business
  noEntity : entity = none →
    row.corpTypeCode = none ∧ row.entityName = none ∧ row.folioNumber = none
  productCode : row.productCode = product

theorem copiedFrom_join (m : Membership) (org : Org) (user : User) (entity : Option Entity)
    (product : Option String) :
    (join m org user entity product).CopiedFrom m org user entity product where
  membershipId := rfl
  role := rfl
  guid := rfl
  account := account_join m org user entity product
  business := business_join m org user entity product
  noEntity := by
    rintro rfl
    exact ⟨rfl, rfl, rfl⟩
  productCode := rfl

/-- Where keys do not repeat, a row is alone under its key. -/
theorem filter_key_eq_singleton {rows : List Row} (h : (rows.map key).Nodup) {row : Row}
    (hrow : row ∈ rows) : (rows.filter fun r => r.key = row.key) = [row] := by
  induction rows with
  | nil => cases hrow
  | cons first rows ih =>
    obtain ⟨hfirst, hrest⟩ := List.nodup_cons.1 h
    rcases List.mem_cons.1 hrow with rfl | hrow
    · have hnone : (rows.filter fun r => r.key = row.key) = [] := by
        rw [List.filter_eq_nil_iff]
        intro r hr heq
        exact hfirst (List.mem_map.2 ⟨r, hr, of_decide_eq_true heq⟩)
      simp [hnone]
    · have hne : first.key ≠ row.key := by
        intro heq
        exact hfirst (List.mem_map.2 ⟨row, hrow, heq.symm⟩)
      simp [hne, ih hrest hrow]

end Row

namespace Store

theorem pairwise_orAbsent_iff {α : Type} {R : Option α → Option α → Prop} (xs : List α) :
    (orAbsent xs).Pairwise R ↔ xs.Pairwise fun x y => R (some x) (some y) := by
  cases xs with
  | nil => simp [orAbsent]
  | cons x xs =>
    show ((x :: xs).map some).Pairwise R ↔ _
    rw [List.pairwise_map]

theorem membershipId_of_mem_rowsOf {s : Store} {m : Membership} {row : Row}
    (h : row ∈ s.rowsOf m) : row.membershipId = m.id := by
  unfold rowsOf at h
  split at h
  · simp only [List.mem_flatMap, List.mem_map] at h
    obtain ⟨e, _, p, _, rfl⟩ := h
    rfl
  · cases h

section Distinct
variable {s : Store} (hs : s.Integrity)
include hs

/-- The entities of an org are listed in the order of their identifiers. -/
theorem pairwise_entitiesOf (org : OrgId) :
    (s.entitiesOf org).Pairwise fun e f => Precedes e.id f.id := by
  have hkeys : s.affiliations.keys.Pairwise Precedes :=
    List.pairwise_map.2 s.affiliations.ascending
  rw [entitiesOf, List.pairwise_filterMap]
  refine (hkeys.sublist List.filter_sublist).imp_of_mem ?_
  intro a b ha hb hab e he f hf
  have haorg := (Affiliation.contains_bounds_iff org a).1 (List.mem_filter.1 ha).2
  have hborg := (Affiliation.contains_bounds_iff org b).1 (List.mem_filter.1 hb).2
  have hpair : Precedes (a.orgId, a.entityId) (b.orgId, b.entityId) := hab
  rw [hs.entitiesKeyed _ e he, hs.entitiesKeyed _ f hf]
  exact hpair.right (haorg.trans hborg.symm)

/-- The products of an org are listed in code-point order. -/
theorem pairwise_productsOf (org : OrgId) : (s.productsOf org).Pairwise Precedes := by
  rw [productsOf, List.pairwise_map]
  refine (hs.subscriptionsKeyed.pairwise_values.sublist List.filter_sublist).imp_of_mem ?_
  intro a b ha hb hab
  have haorg := (of_decide_eq_true (List.mem_filter.1 ha).2).1
  have hborg := (of_decide_eq_true (List.mem_filter.1 hb).2).1
  exact hab.right (haorg.trans hborg.symm)

/-- The entities of an org differ in their business identifiers. -/
theorem pairwise_ne_entitiesOf (org : OrgId) :
    (s.entitiesOf org).Pairwise fun e f => e.businessIdentifier ≠ f.businessIdentifier := by
  refine (pairwise_entitiesOf hs org).imp_of_mem ?_
  intro e f he hf hef hsame
  have heid := ((mem_entitiesOf_iff hs org e).1 he).2
  have hfid := ((mem_entitiesOf_iff hs org f).1 hf).2
  exact hef.ne (hs.oneIdentifier e.id f.id e f heid hfid hsame)

/-- The rows of a membership differ: those of one entity in the product, and those of two entities
in the business, whatever their products. -/
theorem pairwise_key_rowsOf (m : Membership) :
    (s.rowsOf m).Pairwise fun r t => r.key ≠ t.key := by
  unfold rowsOf
  split
  · rename_i org user _ _
    rw [List.pairwise_flatMap]
    constructor
    · intro e _
      rw [List.pairwise_map, pairwise_orAbsent_iff]
      refine (pairwise_productsOf hs org.id).imp ?_
      intro p q hpq hkey
      exact hpq.ne (Option.some.inj (Prod.ext_iff.1 (Prod.ext_iff.1 hkey).2).2)
    · rw [pairwise_orAbsent_iff]
      refine (pairwise_ne_entitiesOf hs org.id).imp ?_
      intro e f hef r hr t ht hkey
      obtain ⟨p, _, rfl⟩ := List.mem_map.1 hr
      obtain ⟨q, _, rfl⟩ := List.mem_map.1 ht
      exact hef (Option.some.inj (Prod.ext_iff.1 (Prod.ext_iff.1 hkey).2).1)
  · exact List.Pairwise.nil

/-- No two rows of the view agree in membership, business and product. -/
theorem nodup_key_rows : (s.rows.map Row.key).Nodup := by
  rw [List.Nodup, List.pairwise_map, rows, List.pairwise_flatMap]
  constructor
  · intro m _
    exact pairwise_key_rowsOf hs m
  · refine (hs.membershipsKeyed.pairwise_values.sublist List.filter_sublist).imp ?_
    intro m n hmn r hr t ht hkey
    rw [← membershipId_of_mem_rowsOf hr, ← membershipId_of_mem_rowsOf ht] at hmn
    exact hmn.ne (Prod.ext_iff.1 hkey).1

/-- Records that meet have one row, which is copied from them. -/
theorem Joins.row {m : Membership} {org : Org} {user : User} {e : Option Entity}
    {p : Option String} (h : s.Joins m org user e p) :
    ∃ row, row.CopiedFrom m org user e p ∧
      (s.rows.filter fun r => r.key = (m.id, e.map (·.businessIdentifier), p)) = [row] := by
  have hmem : Row.join m org user e p ∈ s.rows := (mem_rows_iff hs _).2 ⟨m, org, user, e, p, h, rfl⟩
  exact ⟨Row.join m org user e p, Row.copiedFrom_join m org user e p,
    Row.filter_key_eq_singleton (nodup_key_rows hs) hmem⟩

end Distinct

/-- The view is the join of the tables. An active membership has its org and its user, every
affiliation of the org leads to an entity, and there is one row for each choice of an entity and
a product, or of their absence where there are none. All rows are such rows, no two of them agree
in membership, business and product, and the interval that an org's affiliations are looked up in
holds these and no others. -/
theorem rows_exact {s : Store} (h : s.Reachable) :
    (∀ m, s.Active m → ∃ org user, s.orgs.find? m.orgId = some org ∧
        s.users.find? m.userId = some user ∧
        (∀ i, s.affiliations.contains ⟨m.orgId, i⟩ = true →
          ∃ e, e.id = i ∧ s.EntityChoice m.orgId (some e)) ∧
        ∀ e p, s.EntityChoice m.orgId e → s.ProductChoice m.orgId p →
          ∃ row, row.CopiedFrom m org user e p ∧
            (s.rows.filter fun r => r.key = (m.id, e.map (·.businessIdentifier), p)) = [row]) ∧
      (∀ row ∈ s.rows, ∃ m org user e p, s.Joins m org user e p ∧
        row.CopiedFrom m org user e p) ∧
      (s.rows.map Row.key).Nodup ∧
      ∀ (org : OrgId) (a : Affiliation),
        (Affiliation.bounds org).contains a = true ↔ a.orgId = org := by
  have hs := h.integrity
  refine ⟨?_, ?_, nodup_key_rows hs, Affiliation.contains_bounds_iff⟩
  · intro m hm
    obtain ⟨org, horg⟩ := hs.membershipOrg m.id m hm.1
    obtain ⟨user, huser⟩ := hs.membershipUser m.id m hm.1
    refine ⟨org, user, horg, huser, ?_, ?_⟩
    · intro i hi
      obtain ⟨u, hu⟩ := (s.affiliations.contains_iff _).1 hi
      exact exists_affiliated hs m.orgId hu
    · intro e p he hp
      exact Joins.row hs ⟨hm, horg, huser, he, hp⟩
  · intro row hrow
    obtain ⟨m, org, user, e, p, hjoins, rfl⟩ := (mem_rows_iff hs row).1 hrow
    exact ⟨m, org, user, e, p, hjoins, Row.copiedFrom_join m org user e p⟩

/-- The membership `3` of the org `1`, with the second of its entities and its product. -/
theorem rows_exact_sample :
    sample.Reachable ∧ ∃ m e row, sample.Active m ∧
      sample.EntityChoice m.orgId (some e) ∧ sample.ProductChoice m.orgId (some "BUSINESS") ∧
      row.businessIdentifier = some "CP0000002" ∧
      (sample.rows.filter fun r => r.key = (m.id, some e.businessIdentifier, some "BUSINESS")) =
        [row] := by
  have hm : sample.Active (.active ⟨3⟩ ⟨2⟩ ⟨1⟩ .admin) := ⟨by decide +kernel, rfl⟩
  have he : sample.EntityChoice ⟨1⟩ (some ⟨⟨2⟩, "CP0000002", "CP", none, none⟩) :=
    ⟨by decide +kernel, by decide +kernel⟩
  have hp : sample.ProductChoice ⟨1⟩ (some "BUSINESS") :=
    ⟨.active ⟨1⟩ "BUSINESS", by decide +kernel, rfl⟩
  obtain ⟨org, user, _, _, _, hrows⟩ := (rows_exact reachable_sample).1 _ hm
  obtain ⟨row, hcopied, hrow⟩ := hrows _ _ he hp
  have hidentifier : row.business.map (·.identifier) = some "CP0000002" := by
    rw [hcopied.business]
    rfl
  refine ⟨reachable_sample, _, _, row, hm, he, hp, ?_, hrow⟩
  simpa [Row.business] using hidentifier

end Store

end OrgAccess
