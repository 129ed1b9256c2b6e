import OrgAccess.Proofs.Resolution.Listing

/-! Where a standing comes from. An inquiry reads a store once, and all that it finds is told by
that store: the account by an org, the role by a member of this org, and the business by an entity
that the org may act for. -/

namespace OrgAccess

namespace Store

/-- The standing is that of an org of the store: of an active member of this org, or of staff, and
with an entity that the org may act for if there is a business. -/
structure Tells (s : Store) (standing : Standing) : Prop where
  account : ∃ org, s.orgs.find? standing.account.orgId = some org ∧ standing.account = org.account
  role : standing.role = .staff ∨
    ∃ m, s.Active m ∧ m.orgId = standing.account.orgId ∧ m.role = standing.role
  business : ∀ business, standing.business = some business →
    ∃ e, s.Affiliated standing.account.orgId e ∧ business = e.business

section Readings
variable {s : Store} (hs : s.Integrity)
include hs

theorem tells_of_row {row : Row} (h : row ∈ s.rows) : s.Tells (.ofRow row) := by
  obtain ⟨m, org, user, e, p, hjoins, rfl⟩ := (mem_rows_iff hs row).1 h
  have hid : org.id = m.orgId := hs.orgsKeyed m.orgId org hjoins.org
  refine ⟨⟨org, ?_, rfl⟩, Or.inr ⟨m, hjoins.active, hid.symm, rfl⟩, ?_⟩
  · show s.orgs.find? org.id = some org
    rw [hid]
    exact hjoins.org
  · intro business hb
    have hentity : e.map Entity.business = some business :=
      (Row.business_join m org user e p).symm.trans hb
    obtain ⟨f, rfl, rfl⟩ := Option.map_eq_some_iff.1 hentity
    refine ⟨f, ?_, rfl⟩
    show s.Affiliated org.id f
    rw [hid]
    exact hjoins.entity

theorem tells_of_fetch {filter : Filter} {row : Row} (h : s.fetch filter = some row) :
    s.Tells (.ofRow row) :=
  tells_of_row hs (List.mem_filter.1 (Row.authoritative?_least h).1).1

/-- What an inquiry finds is told by the store it is made of. -/
theorem tells_of_standing? {inquiry : Inquiry} {standing : Standing}
    (h : inquiry.standing? s = some standing) : s.Tells standing := by
  cases inquiry with
  | winner filter =>
    obtain ⟨row, hrow, rfl⟩ := Option.map_eq_some_iff.1 h
    exact tells_of_fetch hs hrow
  | staffWinner filter =>
    obtain ⟨row, hrow, rfl⟩ := Option.map_eq_some_iff.1 h
    have htells := tells_of_fetch hs hrow
    exact ⟨htells.account, Or.inl rfl, htells.business⟩
  | staffOrg id =>
    obtain ⟨org, horg, rfl⟩ := Option.map_eq_some_iff.1 h
    have hid : org.id = id := hs.orgsKeyed id org horg
    refine ⟨⟨org, ?_, rfl⟩, Or.inl rfl, ?_⟩
    · show s.orgs.find? org.id = some org
      rw [hid]
      exact horg
    · intro business hb
      cases hb

theorem tells_of_standingsOf {guid : Guid} {standing : Standing}
    (h : standing ∈ s.standingsOf guid) : s.Tells standing := by
  obtain ⟨row, hrow, rfl⟩ := List.mem_map.1 h
  exact tells_of_fetch hs ((s.mem_fetchPerOrg_iff _ rfl row row.orgId).1 ⟨hrow, rfl⟩)

end Readings

end Store

end OrgAccess
