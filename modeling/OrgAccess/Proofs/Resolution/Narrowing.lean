import Mathlib.Control.Monad.Basic
import OrgAccess.Proofs.Resolution.Exact

/-! Narrowing a request. A corp type or a product decides whether a request on an org is answered,
and a corp type which business is shown. Neither decides who speaks, since a corp type and a
product fit an org as a whole, and with it all of its memberships or none. -/

namespace OrgAccess

/-! ## Requests that are answered -/

namespace Source

section Answered
variable {s : Store} {table : PermissionTable} {guid : Guid} {org : OrgId}
  {corpType : Option String} {answer : Option Authorization}

/-- An answer to a user on an org is what the winner of the filter is granted. -/
theorem answer_user_org (h : (inMemory s table).resolve
      ⟨some (.user guid), some (.org org), corpType⟩ = .ok answer) :
    answer = (s.fetch
      { guid := some guid
        orgId := some org
        corpType := corpType.map Text.trim }).map (Authorization.grantedBy table) := by
  obtain ⟨inquiry, hinquiry⟩ := inquiry_of_resolve h
  cases Request.inquiry_eq_ok_iff.1 hinquiry with
  | userOrg guid org typed =>
    rw [resolve_winner hinquiry] at h
    exact (Except.ok.inj h).symm

/-- An answer to a service account on an org is what the winner of the filter is granted. -/
theorem answer_product_org {product : String} (h : (inMemory s table).resolve
      ⟨some (.serviceAccount guid product), some (.org org), corpType⟩ = .ok answer) :
    answer = (s.fetch
      { orgId := some org
        productCode := some (Text.trim product)
        corpType := corpType.map Text.trim }).map (Authorization.grantedBy table) := by
  obtain ⟨inquiry, hinquiry⟩ := inquiry_of_resolve h
  cases Request.inquiry_eq_ok_iff.1 hinquiry with
  | productOrg guid coded org typed =>
    rw [resolve_winner hinquiry] at h
    exact (Except.ok.inj h).symm

end Answered

end Source

/-! ## Who speaks -/

namespace Store

/-- Of two authorizations that the same membership speaks for, only the business may differ. -/
theorem SpokenFor.eq_but_business {s : Store} {table : PermissionTable} {P : Membership → Prop}
    {a b : Authorization} (ha : s.SpokenFor table P a) (hb : s.SpokenFor table P b) :
    a = { b with business := a.business } := by
  obtain ⟨m, org, hm, horg, hrole, haccount, hactions⟩ := ha
  obtain ⟨n, org', hn, horg', hrole', haccount', hactions'⟩ := hb
  have hmn : n = m := hn.unique hm
  subst hmn
  have hsame : org' = org := Option.some.inj (horg'.symm.trans horg)
  subst hsame
  rw [hrole', haccount', hactions', ← hactions, ← hrole, ← haccount]

section Speaker
variable {s : Store} (hs : s.Integrity) {org : OrgId}
include hs

/-- Two filters on one org and the same users have winners that the same membership speaks for. -/
theorem grantedBy_eq_but_business {filter narrow : Filter} {r t : Row}
    (hr : s.fetch narrow = some r) (ht : s.fetch filter = some t)
    (ho : filter.orgId = some org) (ho' : narrow.orgId = some org)
    (hb : filter.businessIdentifier = none) (hb' : narrow.businessIdentifier = none)
    (hguid : narrow.guid = filter.guid) (table : PermissionTable) :
    Authorization.grantedBy table r =
      { Authorization.grantedBy table t with business := r.business } := by
  have hspeakers : ∀ m, (s.Active m ∧ m.orgId = org ∧ ∀ g, filter.guid = some g → s.HeldBy g m) ↔
      s.Active m ∧ m.orgId = org ∧ ∀ g, narrow.guid = some g → s.HeldBy g m := by
    intro m
    rw [hguid]
  have hwinner := ((fetch_org_exact hs table narrow ho' hb' hspeakers).2 r hr).1
  have hwinner' := ((fetch_org_exact hs table filter ho hb fun _ => Iff.rfl).2 t ht).1
  exact hwinner.eq_but_business hwinner'

/-- A corp type only takes winners away. -/
theorem exists_fetch_of_typed (filter : Filter) {corpType : Option String} {r : Row}
    (hr : s.fetch { filter with corpType := corpType } = some r) (ho : filter.orgId = some org)
    (hb : filter.businessIdentifier = none) (hc : filter.corpType = none) :
    ∃ t, s.fetch filter = some t := by
  obtain ⟨m, hm⟩ := (fetch_isSome_iff hs _).1 (Option.isSome_iff_exists.2 ⟨r, hr⟩)
  have ho' : ({ filter with corpType := corpType } : Filter).orgId = some org := ho
  obtain ⟨hmember, _, hproduct⟩ := (qualifies_org_iff hs ho' hb m).1 hm
  refine Option.isSome_iff_exists.1 ((fetch_isSome_iff hs _).2 ⟨m, ?_⟩)
  refine (qualifies_org_iff hs ho hb m).2 ⟨hmember, ?_, hproduct⟩
  simp [hc]

theorem exists_fetch_of_narrow {guid : Guid} {corpType : Option String} {r : Row}
    (hr : s.fetch { guid := some guid, orgId := some org, corpType := corpType } = some r) :
    ∃ t, s.fetch { guid := some guid, orgId := some org } = some t :=
  exists_fetch_of_typed hs { guid := some guid, orgId := some org } hr rfl rfl rfl

/-- An org where the user speaks, but not for the corp type, has entities, all of other types. -/
theorem entities_of_narrow_eq_none {guid : Guid} {c : String} {t : Row}
    (hr : s.fetch { guid := some guid, orgId := some org, corpType := some c } = none)
    (ht : s.fetch { guid := some guid, orgId := some org } = some t) :
    (∃ e, s.Affiliated org e) ∧ ∀ e, s.Affiliated org e → e.corpTypeCode ≠ c := by
  obtain ⟨m, hm⟩ := (fetch_isSome_iff hs _).1 (Option.isSome_iff_exists.2 ⟨t, ht⟩)
  have hunfit : ¬ s.FitsType org c := by
    intro hfits
    have hsome : s.Qualifies { guid := some guid, orgId := some org, corpType := some c } m := by
      refine (qualifies_org_iff hs rfl rfl m).2 ⟨⟨hm.active, hm.org org rfl, hm.user⟩, ?_, ?_⟩
      · intro d hd
        cases hd
        exact hfits
      · intro p hp
        cases hp
    obtain ⟨r, hr'⟩ := Option.isSome_iff_exists.1 ((fetch_isSome_iff hs _).2 ⟨m, hsome⟩)
    rw [hr] at hr'
    cases hr'
  constructor
  · obtain ⟨e, he⟩ := exists_entityChoice hs org
    cases e with
    | none => exact absurd (Or.inl he) hunfit
    | some e => exact ⟨e, he⟩
  · intro e he hcode
    exact hunfit (Or.inr ⟨e, he, hcode⟩)

end Speaker

end Store

namespace Source
open Store

/-- What comes of a request after its corp type was added: the same, the same but for the business,
or nothing. -/
inductive Narrows : Except ResolveFault (Option Authorization) →
    Except ResolveFault (Option Authorization) → Prop where
  | same (outcome) : Narrows outcome outcome
  | business (a : Authorization) (business : Option Business) :
    Narrows (.ok (some a)) (.ok (some { a with business := business }))
  | nothing (answer) : Narrows (.ok answer) (.ok none)

theorem narrows_of_winner {s : Store} (hs : s.Integrity) (table : PermissionTable)
    {wide narrow : Request} {filter : Filter} {corpType : Option String} {org : OrgId}
    (hwide : wide.inquiry = .ok (.winner filter))
    (hnarrow : narrow.inquiry = .ok (.winner { filter with corpType := corpType }))
    (ho : filter.orgId = some org) (hb : filter.businessIdentifier = none)
    (hc : filter.corpType = none) :
    Narrows ((inMemory s table).resolve wide) ((inMemory s table).resolve narrow) := by
  rw [resolve_winner hwide, resolve_winner hnarrow]
  cases hr : s.fetch { filter with corpType := corpType } with
  | none => exact .nothing _
  | some r =>
    obtain ⟨t, ht⟩ := exists_fetch_of_typed hs filter hr ho hb hc
    rw [ht, Option.map_some, Option.map_some,
      grantedBy_eq_but_business hs hr ht ho ho hb hb rfl table]
    exact .business _ _

/-- Whoever asks about an org, a corp type that is not blank only narrows what comes of it. -/
theorem narrows_of_corpType {s : Store} (hs : s.Integrity) (table : PermissionTable)
    (principal : Principal) (org : OrgId) {c : String} (hc : ¬ Text.AllBlank c) :
    Narrows ((inMemory s table).resolve ⟨some principal, some (.org org), none⟩)
      ((inMemory s table).resolve ⟨some principal, some (.org org), some c⟩) := by
  have hwide : ∀ d, (none : Option String) = some d → ¬ Text.AllBlank d := by simp
  have hnarrow : ∀ d, some c = some d → ¬ Text.AllBlank d := by
    rintro d ⟨⟩
    exact hc
  cases principal with
  | user guid =>
    exact narrows_of_winner hs table (Request.Asks.userOrg guid org hwide).inquiry
      (Request.Asks.userOrg guid org hnarrow).inquiry rfl rfl rfl
  | staff guid => exact .same _
  | serviceAccount guid product =>
    by_cases hproduct : Text.AllBlank product
    · have hblank : ∀ corpType, Request.inquiry
          ⟨some (.serviceAccount guid product), some (.org org), corpType⟩ =
            .error (.invalidInput .blankProductCode) :=
        fun corpType => Request.inquiry_of_lacksProduct (by simp [Request.LacksTarget])
          ⟨guid, product, rfl, hproduct⟩
      rw [resolve_of_fault (hblank none), resolve_of_fault (hblank (some c))]
      exact .same _
    · exact narrows_of_winner hs table (Request.Asks.productOrg guid hproduct org hwide).inquiry
        (Request.Asks.productOrg guid hproduct org hnarrow).inquiry rfl rfl rfl

/-- What a corp type adds to a request of a user on an org does not change the role, the actions or
the account of the answer. If it takes the answer away, the org has entities, but none of the type.
And any two answers to service accounts on the org, for whichever products and corp types, have
the same role, actions and account. -/
theorem narrowing_keeps_speaker {s : Store} (h : s.Reachable) (table : PermissionTable)
    (org : OrgId) :
    (∀ guid c a, (inMemory s table).resolve ⟨some (.user guid), some (.org org), some c⟩ =
        .ok (some a) →
      ∃ b, (inMemory s table).resolve ⟨some (.user guid), some (.org org), none⟩ = .ok (some b) ∧
        a = { b with business := a.business }) ∧
      (∀ guid c b, (inMemory s table).resolve ⟨some (.user guid), some (.org org), some c⟩ =
          .ok none →
        (inMemory s table).resolve ⟨some (.user guid), some (.org org), none⟩ = .ok (some b) →
        (∃ e, s.Affiliated org e) ∧ ∀ e, s.Affiliated org e → e.corpTypeCode ≠ Text.trim c) ∧
      ∀ guid guid' product product' corpType corpType' a b,
        (inMemory s table).resolve
            ⟨some (.serviceAccount guid product), some (.org org), corpType⟩ = .ok (some a) →
          (inMemory s table).resolve
              ⟨some (.serviceAccount guid' product'), some (.org org), corpType'⟩ =
            .ok (some b) →
          a = { b with business := a.business } := by
  have hs := h.integrity
  refine ⟨?_, ?_, ?_⟩
  · intro guid c a ha
    obtain ⟨r, hr, rfl⟩ := Option.map_eq_some_iff.1 (answer_user_org ha).symm
    obtain ⟨t, ht⟩ := exists_fetch_of_narrow hs hr
    refine ⟨Authorization.grantedBy table t, ?_, ?_⟩
    · rw [resolve_winner rfl, ht]
      rfl
    · exact grantedBy_eq_but_business hs hr ht rfl rfl rfl rfl rfl table
  · intro guid c b hnone hb
    have hr := Option.map_eq_none_iff.1 (answer_user_org hnone).symm
    obtain ⟨t, ht, rfl⟩ := Option.map_eq_some_iff.1 (answer_user_org hb).symm
    exact entities_of_narrow_eq_none hs hr ht
  · intro guid guid' product product' corpType corpType' a b ha hb
    obtain ⟨r, hr, rfl⟩ := Option.map_eq_some_iff.1 (answer_product_org ha).symm
    obtain ⟨t, ht, rfl⟩ := Option.map_eq_some_iff.1 (answer_product_org hb).symm
    exact grantedBy_eq_but_business hs hr ht rfl rfl rfl rfl rfl table

/-- What somebody of the role is told about the org `1` and a business. -/
def sampleAnswer (role : Role) (business : Business) : Authorization :=
  ⟨role, PermissionTable.seed.actionsFor role .active, (Org.basic ⟨1⟩ "Acme").account,
    some business⟩

/-- The user `1` is told the same of the org `1` for its second entity as without a corp type, and
nothing for a third type. So are service accounts. -/
theorem narrowing_keeps_speaker_sample :
    sample.Reachable ∧ ∃ first second b c,
      (inMemory sample .seed).resolve ⟨some (.user sampleGuid), some (.org ⟨1⟩), some "CP "⟩ =
          .ok (some (sampleAnswer .user second)) ∧
        (inMemory sample .seed).resolve ⟨some (.user sampleGuid), some (.org ⟨1⟩), none⟩ =
          .ok (some b) ∧
        sampleAnswer .user second = { b with business := some second } ∧
        (inMemory sample .seed).resolve ⟨some (.user sampleGuid), some (.org ⟨1⟩), some "XX"⟩ =
          .ok none ∧
        (∃ e, sample.Affiliated ⟨1⟩ e ∧ e.corpTypeCode ≠ "XX") ∧
        (inMemory sample .seed).resolve
            ⟨some (.serviceAccount sampleGuid "BUSINESS"), some (.org ⟨1⟩), some "CP"⟩ =
          .ok (some (sampleAnswer .admin second)) ∧
        (inMemory sample .seed).resolve
            ⟨some (.serviceAccount sampleGuid " BUSINESS"), some (.org ⟨1⟩), none⟩ =
          .ok (some c) ∧
        c.business = some first ∧ first ≠ second ∧
        sampleAnswer .admin second = { c with business := some second } := by
  let first : Business := ⟨"BC0000001", some "BC", none, none⟩
  let second : Business := ⟨"CP0000002", some "CP", none, none⟩
  obtain ⟨hkept, htaken, hproduct⟩ := narrowing_keeps_speaker reachable_sample .seed ⟨1⟩
  have hsecond : (inMemory sample .seed).resolve
      ⟨some (.user sampleGuid), some (.org ⟨1⟩), some "CP "⟩ =
        .ok (some (sampleAnswer .user second)) := by decide +kernel
  have hthird : (inMemory sample .seed).resolve
      ⟨some (.user sampleGuid), some (.org ⟨1⟩), some "XX"⟩ = .ok none := by decide +kernel
  have hproductSecond : (inMemory sample .seed).resolve
      ⟨some (.serviceAccount sampleGuid "BUSINESS"), some (.org ⟨1⟩), some "CP"⟩ =
        .ok (some (sampleAnswer .admin second)) := by decide +kernel
  have hproductFirst : (inMemory sample .seed).resolve
      ⟨some (.serviceAccount sampleGuid " BUSINESS"), some (.org ⟨1⟩), none⟩ =
        .ok (some (sampleAnswer .admin first)) := by decide +kernel
  obtain ⟨b, hb, hsame⟩ := hkept _ _ _ hsecond
  obtain ⟨⟨e, he⟩, hother⟩ := htaken _ _ _ hthird hb
  exact ⟨reachable_sample, first, second, b, sampleAnswer .admin first, hsecond, hb, hsame, hthird,
    ⟨e, he, hother e he⟩, hproductSecond, hproductFirst, rfl, by decide,
    hproduct _ _ _ _ _ _ _ _ hproductSecond hproductFirst⟩

end Source

end OrgAccess
