import OrgAccess.Proofs.Resolution.Answer

/-! Answers are exact. For users and for service accounts, on orgs and on businesses, the tables
say whether there is an answer, which membership speaks, and which business is shown. -/

namespace OrgAccess

namespace Filter

theorem admitsEntity_none {filter : Filter} (hb : filter.businessIdentifier = none) :
    filter.AdmitsEntity none := by
  simp [AdmitsEntity, meets_iff, meetsOrAbsent_iff, hb]

theorem admitsEntity_some_iff {filter : Filter} (hb : filter.businessIdentifier = none)
    (e : Entity) : filter.AdmitsEntity (some e) ↔
      ∀ c, filter.corpType = some c → e.corpTypeCode = c := by
  simp [AdmitsEntity, meets_iff, meetsOrAbsent_iff, hb]

theorem admitsEntity_iff_of_business {filter : Filter} {identifier : String}
    (hb : filter.businessIdentifier = some identifier) (hc : filter.corpType = none)
    (entity : Option Entity) : filter.AdmitsEntity entity ↔
      ∃ e, entity = some e ∧ e.businessIdentifier = identifier := by
  cases entity <;> simp [AdmitsEntity, meets_iff, meetsOrAbsent_iff, hb, hc]

end Filter

namespace Store

/-- The org has no affiliation, or one with an entity of the corp type. -/
def FitsType (s : Store) (org : OrgId) (corpType : String) : Prop :=
  s.Unaffiliated org ∨ ∃ e, s.Affiliated org e ∧ e.corpTypeCode = corpType

/-- The org is affiliated with the entity of that business identifier. -/
def ActsFor (s : Store) (org : OrgId) (identifier : String) : Prop :=
  ∃ e, s.Affiliated org e ∧ e.businessIdentifier = identifier

/-- The first membership with the property `P` speaks. The role is its own, the account that of
its org, and the actions are what the table grants the role at the status of the org. -/
def SpokenFor (s : Store) (table : PermissionTable) (P : Membership → Prop)
    (a : Authorization) : Prop :=
  ∃ m org, FirstBy Membership.seniority P m ∧ s.orgs.find? m.orgId = some org ∧
    a.role = m.role ∧ a.account = org.account ∧
    a.actions = table.actionsFor m.role org.statusCode

/-- The business shown for an org: none if it has no affiliation, and otherwise the entity of
least identifier among those of the corp type, if one is asked for. -/
def FirstBusiness (s : Store) (org : OrgId) (corpType : Option String)
    (business : Option Business) : Prop :=
  s.Unaffiliated org ∧ business = none ∨
    ∃ e, FirstBy Entity.businessIdentifier
        (fun e => s.Affiliated org e ∧ ∀ c, corpType = some c → e.corpTypeCode = c) e ∧
      business = some e.business

theorem exists_productChoice_iff (s : Store) (org : OrgId) (wanted : Option String) :
    (∃ p, s.ProductChoice org p ∧ Filter.meets wanted p = true) ↔
      ∀ p, wanted = some p → s.Subscribed org p := by
  simp only [Filter.meets_iff]
  constructor
  · rintro ⟨p, hp, hmeets⟩ w hw
    have heq : p = some w := hmeets w hw
    subst heq
    exact hp
  · intro h
    cases wanted with
    | some w => exact ⟨some w, h w rfl, fun _ heq => heq⟩
    | none =>
      rcases Classical.em (∃ p, s.Subscribed org p) with ⟨p, hp⟩ | hnone
      · exact ⟨some p, hp, by simp⟩
      · exact ⟨none, fun p hp => hnone ⟨p, hp⟩, by simp⟩

section Exact
variable {s : Store} (hs : s.Integrity)
include hs

theorem exists_entityChoice (org : OrgId) : ∃ e, s.EntityChoice org e := by
  cases h : s.entitiesOf org with
  | nil => exact ⟨none, (entitiesOf_eq_nil_iff hs org).1 h⟩
  | cons e es => exact ⟨some e, (mem_entitiesOf_iff hs org e).1 (by simp [h])⟩

theorem exists_entityChoice_iff_fitsType (org : OrgId) {filter : Filter}
    (hb : filter.businessIdentifier = none) :
    (∃ e, s.EntityChoice org e ∧ filter.AdmitsEntity e) ↔
      ∀ c, filter.corpType = some c → s.FitsType org c := by
  constructor
  · rintro ⟨e, he, hadmits⟩ c hc
    cases e with
    | none => exact Or.inl he
    | some e => exact Or.inr ⟨e, he, (Filter.admitsEntity_some_iff hb e).1 hadmits c hc⟩
  · intro h
    cases htype : filter.corpType with
    | none =>
      obtain ⟨e, he⟩ := exists_entityChoice hs org
      cases e with
      | none => exact ⟨none, he, Filter.admitsEntity_none hb⟩
      | some e => exact ⟨some e, he, (Filter.admitsEntity_some_iff hb e).2 (by simp [htype])⟩
    | some c =>
      rcases h c htype with hun | ⟨e, he, hcode⟩
      · exact ⟨none, hun, Filter.admitsEntity_none hb⟩
      · refine ⟨some e, he, (Filter.admitsEntity_some_iff hb e).2 ?_⟩
        intro d hd
        rw [htype] at hd
        cases hd
        exact hcode

omit hs in
theorem exists_entityChoice_iff_actsFor (org : OrgId) {filter : Filter} {identifier : String}
    (hb : filter.businessIdentifier = some identifier) (hc : filter.corpType = none) :
    (∃ e, s.EntityChoice org e ∧ filter.AdmitsEntity e) ↔ s.ActsFor org identifier := by
  simp only [Filter.admitsEntity_iff_of_business hb hc]
  constructor
  · rintro ⟨_, he, e, rfl, hident⟩
    exact ⟨e, he, hident⟩
  · rintro ⟨e, he, hident⟩
    exact ⟨some e, he, e, rfl, hident⟩

/-- The winner speaks for all qualifying memberships, and these are told by `P`. -/
theorem spokenFor_of_fetch (table : PermissionTable) {filter : Filter} {row : Row}
    (h : s.fetch filter = some row) {P : Membership → Prop}
    (hP : ∀ n, s.Qualifies filter n ↔ P n) :
    s.SpokenFor table P (Authorization.grantedBy table row) := by
  obtain ⟨m, org, user, e, p, rfl, horg, hfirst, _⟩ := fetch_eq_some hs h
  exact ⟨m, org, hfirst.congr hP, horg, rfl, rfl, rfl⟩

theorem qualifies_org_iff {filter : Filter} {org : OrgId} (ho : filter.orgId = some org)
    (hb : filter.businessIdentifier = none) (m : Membership) :
    s.Qualifies filter m ↔
      (s.Active m ∧ m.orgId = org ∧ ∀ g, filter.guid = some g → s.HeldBy g m) ∧
        (∀ c, filter.corpType = some c → s.FitsType org c) ∧
        ∀ p, filter.productCode = some p → s.Subscribed org p := by
  constructor
  · intro h
    have horg : m.orgId = org := h.org org ho
    subst horg
    exact ⟨⟨h.active, rfl, h.user⟩, (exists_entityChoice_iff_fitsType hs m.orgId hb).1 h.entity,
      (s.exists_productChoice_iff m.orgId _).1 h.product⟩
  · rintro ⟨⟨hactive, rfl, huser⟩, htype, hproduct⟩
    exact {
      active := hactive
      user := huser
      org := by
        intro o hf
        rw [ho] at hf
        exact Option.some.inj hf
      entity := (exists_entityChoice_iff_fitsType hs m.orgId hb).2 htype
      product := (s.exists_productChoice_iff m.orgId _).2 hproduct }

omit hs in
theorem qualifies_business_iff {filter : Filter} {identifier : String}
    (hb : filter.businessIdentifier = some identifier) (hc : filter.corpType = none)
    (ho : filter.orgId = none) (m : Membership) :
    s.Qualifies filter m ↔
      s.Active m ∧ (∀ g, filter.guid = some g → s.HeldBy g m) ∧ s.ActsFor m.orgId identifier ∧
        ∀ p, filter.productCode = some p → s.Subscribed m.orgId p := by
  constructor
  · intro h
    exact ⟨h.active, h.user, (exists_entityChoice_iff_actsFor m.orgId hb hc).1 h.entity,
      (s.exists_productChoice_iff m.orgId _).1 h.product⟩
  · rintro ⟨hactive, huser, hacts, hproduct⟩
    exact {
      active := hactive
      user := huser
      org := by simp [ho]
      entity := (exists_entityChoice_iff_actsFor m.orgId hb hc).2 hacts
      product := (s.exists_productChoice_iff m.orgId _).2 hproduct }

theorem firstBusiness_of_fetch {filter : Filter} {org : OrgId} {row : Row}
    (ho : filter.orgId = some org) (hb : filter.businessIdentifier = none)
    (h : s.fetch filter = some row) : s.FirstBusiness org filter.corpType row.business := by
  obtain ⟨m, o, user, e, p, rfl, _, hm, ⟨hchoice, hadmits⟩, hbefore⟩ := fetch_eq_some hs h
  have horg : m.orgId = org := hm.1.org org ho
  subst horg
  rw [Row.business_join]
  cases e with
  | none => exact Or.inl ⟨hchoice, rfl⟩
  | some e =>
    refine Or.inr ⟨e, ⟨⟨hchoice, (Filter.admitsEntity_some_iff hb e).1 hadmits⟩, ?_⟩, rfl⟩
    rintro f ⟨hf, htype⟩ hne
    have hfadmits := (Filter.admitsEntity_some_iff hb f).2 htype
    exact (precedes_some_iff _ _).1
      (hbefore (some f) ⟨hf, hfadmits⟩ fun heq => hne (Option.some.inj heq))

theorem business_of_fetch {filter : Filter} {identifier : String} {row : Row}
    (hb : filter.businessIdentifier = some identifier) (hc : filter.corpType = none)
    (h : s.fetch filter = some row) :
    ∃ e, s.entities.find? e.id = some e ∧ e.businessIdentifier = identifier ∧
      row.business = some e.business := by
  obtain ⟨m, o, user, entity, p, rfl, _, _, ⟨hchoice, hadmits⟩, _⟩ := fetch_eq_some hs h
  obtain ⟨e, rfl, hident⟩ := (Filter.admitsEntity_iff_of_business hb hc entity).1 hadmits
  exact ⟨e, hchoice.2, hident, rfl⟩

/-- What a filter on one org finds: there is a winner if and only if the org has a member to
speak, fits the corp type and has the product. -/
theorem fetch_org_exact (table : PermissionTable) (filter : Filter) {org : OrgId}
    (ho : filter.orgId = some org) (hb : filter.businessIdentifier = none)
    {P : Membership → Prop}
    (hP : ∀ m, P m ↔ s.Active m ∧ m.orgId = org ∧ ∀ g, filter.guid = some g → s.HeldBy g m) :
    ((s.fetch filter).isSome = true ↔ (∃ m, P m) ∧
        (∀ c, filter.corpType = some c → s.FitsType org c) ∧
        ∀ p, filter.productCode = some p → s.Subscribed org p) ∧
      ∀ row, s.fetch filter = some row →
        s.SpokenFor table P (Authorization.grantedBy table row) ∧
        s.FirstBusiness org filter.corpType row.business := by
  have hQ : ∀ m, s.Qualifies filter m ↔ P m ∧
      (∀ c, filter.corpType = some c → s.FitsType org c) ∧
      ∀ p, filter.productCode = some p → s.Subscribed org p := by
    intro m
    rw [hP m]
    exact qualifies_org_iff hs ho hb m
  constructor
  · rw [fetch_isSome_iff hs]
    constructor
    · rintro ⟨m, hm⟩
      obtain ⟨hp, hrest⟩ := (hQ m).1 hm
      exact ⟨⟨m, hp⟩, hrest⟩
    · rintro ⟨⟨m, hp⟩, hrest⟩
      exact ⟨m, (hQ m).2 ⟨hp, hrest⟩⟩
  · intro row hrow
    obtain ⟨m, hm⟩ := (fetch_isSome_iff hs filter).1 (by simp [hrow])
    have hrest := ((hQ m).1 hm).2
    refine ⟨spokenFor_of_fetch hs table hrow ?_, firstBusiness_of_fetch hs ho hb hrow⟩
    intro n
    exact ⟨fun hn => ((hQ n).1 hn).1, fun hn => (hQ n).2 ⟨hn, hrest⟩⟩

/-- What a filter on one business finds: there is a winner if and only if some org that acts
for the business has a member to speak and has the product. -/
theorem fetch_business_exact (table : PermissionTable) (filter : Filter) {identifier : String}
    (hb : filter.businessIdentifier = some identifier) (hc : filter.corpType = none)
    (ho : filter.orgId = none) {P : Membership → Prop}
    (hP : ∀ m, P m ↔ s.Active m ∧ (∀ g, filter.guid = some g → s.HeldBy g m) ∧
      s.ActsFor m.orgId identifier ∧ ∀ p, filter.productCode = some p → s.Subscribed m.orgId p) :
    ((s.fetch filter).isSome = true ↔ ∃ m, P m) ∧
      ∀ row, s.fetch filter = some row →
        s.SpokenFor table P (Authorization.grantedBy table row) ∧
        ∃ e, s.entities.find? e.id = some e ∧ e.businessIdentifier = identifier ∧
          row.business = some e.business := by
  have hQ : ∀ m, s.Qualifies filter m ↔ P m := fun m =>
    (qualifies_business_iff hb hc ho m).trans (hP m).symm
  constructor
  · rw [fetch_isSome_iff hs]
    exact exists_congr hQ
  · intro row hrow
    exact ⟨spokenFor_of_fetch hs table hrow hQ, business_of_fetch hs hb hc hrow⟩

end Exact

end Store

namespace Source
open Store

/-- A user on an org. There is an answer if and only if the user is an active member of the org
and the corp type, if one is given, fits it. -/
theorem resolve_user_org {s : Store} (h : s.Reachable) (table : PermissionTable) (guid : Guid)
    (org : OrgId) {corpType : Option String}
    (htype : ∀ c, corpType = some c → ¬ Text.AllBlank c) :
    ∃ answer,
      (inMemory s table).resolve ⟨some (.user guid), some (.org org), corpType⟩ = .ok answer ∧
      (answer.isSome = true ↔ (∃ m, s.Active m ∧ m.orgId = org ∧ s.HeldBy guid m) ∧
        ∀ c, corpType = some c → s.FitsType org (Text.trim c)) ∧
      ∀ a, answer = some a →
        s.SpokenFor table (fun m => s.Active m ∧ m.orgId = org ∧ s.HeldBy guid m) a ∧
        s.FirstBusiness org (corpType.map Text.trim) a.business := by
  obtain ⟨hsome, hgrant⟩ := fetch_org_exact h.integrity table
    { guid := some guid, orgId := some org, corpType := corpType.map Text.trim }
    (P := fun m => s.Active m ∧ m.orgId = org ∧ s.HeldBy guid m) rfl rfl (by simp)
  refine resolve_exact (Request.Asks.userOrg guid org htype).inquiry ?_ hgrant
  rw [hsome]
  simp

/-- The user `1` on the org `1`, asking for another corp type than that of its first entity. -/
theorem resolve_user_org_sample :
    sample.Reachable ∧ (∀ c, some " CP " = some c → ¬ Text.AllBlank c) ∧
      ∃ a, (inMemory sample .seed).resolve ⟨some (.user sampleGuid),
          some (.org ⟨1⟩), some " CP "⟩ = .ok (some a) ∧
        sample.FirstBusiness ⟨1⟩ (some (Text.trim " CP ")) a.business := by
  have htype : ∀ c, some " CP " = some c → ¬ Text.AllBlank c := by
    intro c hc
    cases hc
    decide +kernel
  obtain ⟨answer, hok, _, hgrant⟩ := resolve_user_org reachable_sample .seed
    sampleGuid ⟨1⟩ htype
  cases answer with
  | none => exact absurd (congrArg Except.toOption hok) (by decide +kernel)
  | some a => exact ⟨reachable_sample, htype, a, hok, (hgrant a rfl).2⟩

/-- A service account on an org. There is an answer if and only if the org subscribes to the
product, has an active member, and the corp type, if one is given, fits it. -/
theorem resolve_product_org {s : Store} (h : s.Reachable) (table : PermissionTable)
    (guid : Guid) (org : OrgId) {product : String} (hproduct : ¬ Text.AllBlank product)
    {corpType : Option String} (htype : ∀ c, corpType = some c → ¬ Text.AllBlank c) :
    ∃ answer,
      (inMemory s table).resolve
          ⟨some (.serviceAccount guid product), some (.org org), corpType⟩ = .ok answer ∧
      (answer.isSome = true ↔ s.Subscribed org (Text.trim product) ∧
        (∃ m, s.Active m ∧ m.orgId = org) ∧
        ∀ c, corpType = some c → s.FitsType org (Text.trim c)) ∧
      ∀ a, answer = some a →
        s.SpokenFor table (fun m => s.Active m ∧ m.orgId = org) a ∧
        s.FirstBusiness org (corpType.map Text.trim) a.business := by
  obtain ⟨hsome, hgrant⟩ := fetch_org_exact h.integrity table
    { orgId := some org
      productCode := some (Text.trim product)
      corpType := corpType.map Text.trim }
    (P := fun m => s.Active m ∧ m.orgId = org) rfl rfl (by simp)
  refine resolve_exact (Request.Asks.productOrg guid hproduct org htype).inquiry ?_ hgrant
  rw [hsome]
  constructor
  · rintro ⟨hmember, htypes, hproducts⟩
    exact ⟨hproducts _ rfl, hmember, fun c hc => htypes _ (by simp [hc])⟩
  · rintro ⟨hsub, hmember, hfits⟩
    exact ⟨hmember, by simpa using hfits, by simpa using hsub⟩

/-- The product of the org `1`, which has two active members and two entities. -/
theorem resolve_product_org_sample :
    sample.Reachable ∧ ¬ Text.AllBlank "BUSINESS " ∧
      (∀ c, some "CP" = some c → ¬ Text.AllBlank c) ∧
      ∃ a, (inMemory sample .seed).resolve
          ⟨some (.serviceAccount sampleGuid "BUSINESS "), some (.org ⟨1⟩),
            some "CP"⟩ = .ok (some a) ∧
        sample.SpokenFor .seed (fun m => sample.Active m ∧ m.orgId = ⟨1⟩) a := by
  have hproduct : ¬ Text.AllBlank "BUSINESS " := by decide +kernel
  have htype : ∀ c, some "CP" = some c → ¬ Text.AllBlank c := by
    intro c hc
    cases hc
    decide +kernel
  obtain ⟨answer, hok, _, hgrant⟩ := resolve_product_org reachable_sample .seed
    sampleGuid ⟨1⟩ hproduct htype
  cases answer with
  | none => exact absurd (congrArg Except.toOption hok) (by decide +kernel)
  | some a => exact ⟨reachable_sample, hproduct, htype, a, hok, (hgrant a rfl).1⟩

/-- The outcome is exact for a business of that identifier: there is an answer if and only if
some membership has the property `P`, the first of these speaks, whichever its org, and the
business shown is the entity of the identifier. -/
def ExactOnBusiness (s : Store) (table : PermissionTable) (identifier : String)
    (P : Membership → Prop) (outcome : Except ResolveFault (Option Authorization)) : Prop :=
  ∃ answer, outcome = .ok answer ∧ (answer.isSome = true ↔ ∃ m, P m) ∧
    ∀ a, answer = some a → s.SpokenFor table P a ∧
      ∃ e, s.entities.find? e.id = some e ∧ e.businessIdentifier = identifier ∧
        a.business = some e.business

/-- A user or a service account on a business. Those who may speak are the active members of
all the orgs that act for it: the user's own memberships, or any in an org that subscribes to
the product. -/
theorem resolve_business {s : Store} (h : s.Reachable) (table : PermissionTable) (guid : Guid)
    {identifier : String} (hid : Text.trim identifier ≠ "") (corpType : Option String) :
    ExactOnBusiness s table (Text.trim identifier)
        (fun m => s.Active m ∧ s.HeldBy guid m ∧ s.ActsFor m.orgId (Text.trim identifier))
        ((inMemory s table).resolve
          ⟨some (.user guid), some (.business identifier), corpType⟩) ∧
      ∀ product, ¬ Text.AllBlank product →
        ExactOnBusiness s table (Text.trim identifier)
          (fun m => s.Active m ∧ s.ActsFor m.orgId (Text.trim identifier) ∧
            s.Subscribed m.orgId (Text.trim product))
          ((inMemory s table).resolve
            ⟨some (.serviceAccount guid product), some (.business identifier), corpType⟩) := by
  have hblank : ¬ Text.AllBlank identifier := fun hc => hid ((Text.trim_eq_empty_iff _).2 hc)
  constructor
  · obtain ⟨hsome, hgrant⟩ := fetch_business_exact h.integrity table
      { guid := some guid, businessIdentifier := some (Text.trim identifier) }
      (P := fun m => s.Active m ∧ s.HeldBy guid m ∧ s.ActsFor m.orgId (Text.trim identifier))
      rfl rfl rfl (by simp)
    exact resolve_exact (Request.Asks.userBusiness guid hblank corpType).inquiry hsome hgrant
  · intro product hproduct
    obtain ⟨hsome, hgrant⟩ := fetch_business_exact h.integrity table
      { businessIdentifier := some (Text.trim identifier)
        productCode := some (Text.trim product) }
      (P := fun m => s.Active m ∧ s.ActsFor m.orgId (Text.trim identifier) ∧
        s.Subscribed m.orgId (Text.trim product))
      rfl rfl rfl (by simp)
    exact resolve_exact (Request.Asks.productBusiness guid hproduct hblank corpType).inquiry
      hsome hgrant

/-- The entity `1` is that of two orgs, and the user `1` is a member of both. -/
theorem resolve_business_sample :
    sample.Reachable ∧ Text.trim " BC0000001" ≠ "" ∧
      ∃ a, (inMemory sample .seed).resolve ⟨some (.user sampleGuid),
          some (.business " BC0000001"), none⟩ = .ok (some a) ∧ a.account.orgId = ⟨2⟩ ∧
        ∃ e, sample.entities.find? e.id = some e ∧ a.business = some e.business := by
  have hid : Text.trim " BC0000001" ≠ "" := by decide +kernel
  obtain ⟨answer, hok, _, hgrant⟩ := (resolve_business reachable_sample .seed
    sampleGuid hid none).1
  have horg : (((inMemory sample .seed).resolve ⟨some (.user sampleGuid),
      some (.business " BC0000001"), none⟩).toOption.map fun answer =>
        answer.map fun a => a.account.orgId) = some (some ⟨2⟩) := by decide +kernel
  rw [hok] at horg
  cases answer with
  | none => cases horg
  | some a =>
    obtain ⟨_, e, he, _, hbusiness⟩ := hgrant a rfl
    exact ⟨reachable_sample, hid, a, hok, Option.some.inj (Option.some.inj horg), e, he, hbusiness⟩

end Source

end OrgAccess
