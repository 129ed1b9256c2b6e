import OrgAccess.Proofs.Id
import OrgAccess.Proofs.Resolution.Listing
import OrgAccess.Proofs.Web.Body
import OrgAccess.Proofs.Web.Route

/-! The listing of a user and the answers on single orgs, as clients see them. Both tell of the
winners of the user, one for each org: the listing of all of them, the expanded answer on an org of
the winner there. The id of the org is read back from the path as it was written. -/

namespace OrgAccess

namespace Store

variable (s : Store) (table : PermissionTable) (guid : Guid)

/-- What a user is granted, org by org. -/
def listing : List Authorization :=
  (s.fetchPerOrg { guid := some guid }).map (Authorization.grantedBy table)

/-- What a user is granted on an org. -/
def grantOn (org : OrgId) : Option Authorization :=
  (s.fetch { guid := some guid, orgId := some org }).map (Authorization.grantedBy table)

theorem resolve_eq_grantOn (org : OrgId) :
    (Source.inMemory s table).resolve ⟨some (.user guid), some (.org org), none⟩ =
      .ok (s.grantOn table guid org) :=
  Source.resolve_winner (Request.Asks.userOrg guid org (by simp)).inquiry

theorem pairwise_listing :
    (s.listing table guid).Pairwise fun a b => a.account.orgId.value < b.account.orgId.value := by
  rw [listing, List.pairwise_map]
  refine (Row.pairwise_authoritativePerOrg _).imp ?_
  intro r t hrt
  exact (precedes_id_iff r.orgId t.orgId).1 hrt

/-- What is listed about an org is what is granted on it. -/
theorem mem_listing_iff (org : OrgId) (a : Authorization) :
    a ∈ s.listing table guid ∧ a.account.orgId = org ↔ s.grantOn table guid org = some a := by
  have hwinner := fun row => s.mem_fetchPerOrg_iff { guid := some guid } rfl row org
  rw [listing, grantOn, List.mem_map, Option.map_eq_some_iff]
  constructor
  · rintro ⟨⟨row, hrow, rfl⟩, horg⟩
    exact ⟨row, (hwinner row).1 ⟨hrow, horg⟩, rfl⟩
  · rintro ⟨row, hrow, rfl⟩
    obtain ⟨hmem, horg⟩ := (hwinner row).2 hrow
    exact ⟨⟨row, hmem, rfl⟩, horg⟩

end Store

namespace Web

/-! ## Requests -/

/-- The request asks for all authorizations of the caller. -/
structure Request.AsksListing (r : Request) : Prop where
  method : r.method = "GET"
  path : r.uri.path = Route.mine.path

/-- The request asks for the expanded answer on an org, and for no product. -/
structure Request.AsksExpanded (r : Request) (org : OrgId) : Prop where
  method : r.method = "GET"
  uri : r.uri = ⟨(Route.org org.text).path, some "expanded=true"⟩
  product : r.header? "product-code" = none

theorem expanded?_true : expanded? "expanded=true" = some true := by decide +kernel

/-! ## Entries -/

/-- What is told of an authorization in full, or of none. -/
def expanded (a : Option Authorization) : Json := (Grant.ofOption a true).toJson

/-- An authorization as a member of the listing. -/
def entry (a : Authorization) : Json := expanded (some a)

theorem expanded_none : expanded none = nothingGranted := Grant.toJson_empty

/-- A membership is told of when something is granted. -/
theorem isSome_membership_iff (a : Option Authorization) :
    ((expanded a).member? "orgMembership").isSome = true ↔ a.isSome = true := by
  rw [expanded, Grant.member?_orgMembership, Option.isSome_map]
  cases a <;> simp [Grant.ofOption, Grant.of, Grant.empty]

theorem accountId?_entry (a : Authorization) :
    accountId? (entry a) = some a.account.orgId.value.toInt :=
  Grant.accountId?_toJson (Grant.of a true)

theorem accountId?_entry_eq_iff (a : Authorization) (org : OrgId) :
    accountId? (entry a) = some org.value.toInt ↔ a.account.orgId = org := by
  rw [accountId?_entry, Option.some.injEq, Id.toInt_value_inj]

section Listing
variable (s : Store) (table : PermissionTable) (guid : Guid)

theorem ids_of_entries : ∃ ids : List Int,
    ((s.listing table guid).map entry).map accountId? = ids.map some ∧ ids.Pairwise (· < ·) := by
  refine ⟨(s.listing table guid).map fun a => a.account.orgId.value.toInt, ?_, ?_⟩
  · simp only [List.map_map]
    exact List.map_congr_left fun a _ => accountId?_entry a
  · rw [List.pairwise_map]
    refine (s.pairwise_listing table guid).imp ?_
    intro a b hab
    exact Int64.lt_iff_toInt_lt.1 hab

/-- The entry about an org is made of what is granted on the org. -/
theorem mem_entries_iff (org : OrgId) (e : Json) :
    e ∈ (s.listing table guid).map entry ∧ accountId? e = some org.value.toInt ↔
      ∃ a, s.grantOn table guid org = some a ∧ entry a = e := by
  rw [List.mem_map]
  constructor
  · rintro ⟨⟨a, ha, rfl⟩, hid⟩
    have horg := (accountId?_entry_eq_iff a org).1 hid
    exact ⟨a, (s.mem_listing_iff table guid org a).1 ⟨ha, horg⟩, rfl⟩
  · rintro ⟨a, ha, rfl⟩
    obtain ⟨hmem, horg⟩ := (s.mem_listing_iff table guid org a).2 ha
    exact ⟨⟨a, hmem, rfl⟩, (accountId?_entry_eq_iff a org).2 horg⟩

/-- Something is granted on an org when an entry is about it. -/
theorem isSome_grantOn_iff (org : OrgId) : (s.grantOn table guid org).isSome = true ↔
    ∃ e ∈ (s.listing table guid).map entry, accountId? e = some org.value.toInt := by
  rw [Option.isSome_iff_exists]
  constructor
  · rintro ⟨a, ha⟩
    exact ⟨entry a, (mem_entries_iff s table guid org (entry a)).2 ⟨a, ha, rfl⟩⟩
  · rintro ⟨e, he⟩
    obtain ⟨a, ha, _⟩ := (mem_entries_iff s table guid org e).1 he
    exact ⟨a, ha⟩

/-- What is told of an org in full is the entry about it. -/
theorem expanded_grantOn_of_entry {org : OrgId} {e : Json}
    (he : e ∈ (s.listing table guid).map entry) (hid : accountId? e = some org.value.toInt) :
    expanded (s.grantOn table guid org) = e := by
  obtain ⟨a, ha, rfl⟩ := (mem_entries_iff s table guid org e).1 ⟨he, hid⟩
  rw [ha, entry]

theorem expanded_grantOn_of_no_entry {org : OrgId}
    (h : ∀ e ∈ (s.listing table guid).map entry, accountId? e ≠ some org.value.toInt) :
    expanded (s.grantOn table guid org) = nothingGranted := by
  have hnone : s.grantOn table guid org = none := by
    rw [← Option.not_isSome_iff_eq_none, isSome_grantOn_iff]
    rintro ⟨e, he, hid⟩
    exact h e he hid
  rw [hnone, expanded_none]

end Listing

/-! ## Responses -/

namespace Service

variable {secret : String} {now : Instant} {guid : Guid} {r : Request}

theorem respond_listing (s : Store) (table : PermissionTable)
    (h : r.Identifies secret now (.user guid)) (hasks : r.AsksListing) :
    (respond ⟨secret, .inMemory s table⟩ now r).Shows 200
      (Json.ofFields [("authorizations", .array ((s.listing table guid).map entry))]) := by
  have hresponse : respond ⟨secret, .inMemory s table⟩ now r =
      .ofListing (.ok (s.listing table guid)) := by
    rw [respond_route h hasks.method hasks.path trivial, Store.listing,
      ← Source.resolveAll_inMemory]
    rfl
  rw [hresponse]
  refine ⟨rfl, ?_⟩
  simp only [Response.ofListing, Body.toJson?, Json.ofList, List.map_map]
  rfl

theorem respond_expanded (s : Store) (table : PermissionTable)
    (h : r.Identifies secret now (.user guid)) {org : OrgId} (horg : 0 < org.value)
    (hasks : r.AsksExpanded org) :
    (respond ⟨secret, .inMemory s table⟩ now r).Shows 200
      (expanded (s.grantOn table guid org)) := by
  have hpath : r.uri.path = (Route.org org.text).path := by rw [hasks.uri]
  have hplain : (Route.org org.text).Plain := Id.not_mem_text_of_lt_zero horg (by decide)
  have htext : Percent.text? org.text = some org.text :=
    Percent.text?_of_not_mem (Id.not_mem_text_of_lt_zero horg (by decide))
  have hquery : expanded? (r.uri.query.getD "") = some true := by
    rw [hasks.uri]
    exact expanded?_true
  have hproduct : productCode? r = none := by
    rw [productCode?, hasks.product]
    rfl
  rw [respond_route h hasks.method hpath hplain, Route.answer, htext, hquery]
  simp only [Id.parse_text horg, hproduct, Store.resolve_eq_grantOn]
  exact ⟨rfl, rfl⟩

/-- The listing of a user agrees with the expanded answers on the orgs. Its entries ascend strictly
by the ids of their accounts. The answer on an org tells of a membership just when an entry is
about the org, and then it is this entry; otherwise it tells of nothing granted. -/
theorem listing_agrees (s : Store) (table : PermissionTable) {mine : Request}
    (hmine : mine.Identifies secret now (.user guid)) (hasks : mine.AsksListing) :
    ∃ entries : List Json,
      (respond ⟨secret, .inMemory s table⟩ now mine).Shows 200
        (Json.ofFields [("authorizations", .array entries)]) ∧
      (∃ ids : List Int, entries.map accountId? = ids.map some ∧ ids.Pairwise (· < ·)) ∧
      ∀ (org : OrgId) (one : Request), 0 < org.value → one.Identifies secret now (.user guid) →
        one.AsksExpanded org →
        ∃ document, (respond ⟨secret, .inMemory s table⟩ now one).Shows 200 document ∧
          ((document.member? "orgMembership").isSome = true ↔
            ∃ e ∈ entries, accountId? e = some org.value.toInt) ∧
          (∀ e ∈ entries, accountId? e = some org.value.toInt → document = e) ∧
          ((∀ e ∈ entries, accountId? e ≠ some org.value.toInt) → document = nothingGranted) := by
  refine ⟨_, respond_listing s table hmine hasks, ids_of_entries s table guid, ?_⟩
  intro org one horg hone hasksOne
  refine ⟨_, respond_expanded s table hone horg hasksOne, ?_, ?_, ?_⟩
  · rw [isSome_membership_iff, isSome_grantOn_iff]
  · intro e he hid
    exact expanded_grantOn_of_entry s table guid he hid
  · intro h
    exact expanded_grantOn_of_no_entry s table guid h

/-- A request of the user with the sample GUID, with a token that is signed with the secret
`secret` and holds until 2286. -/
def sampleCaller (uri : Uri) : Request where
  method := "GET"
  uri := uri
  headers := [⟨"Authorization", Text.toUtf8 ("Bearer " ++ "eyJhbGciOiJIUzI1NiJ9." ++
    "eyJzdWIiOiIxMTExMTExMS0xMTExLTExMTEtMTExMS0xMTEx" ++
    "MTExMTExMTEiLCJpYXQiOjEsImV4cCI6OTk5OTk5OTk5OX0." ++
    "X5lMOTGnwkD2D_1UADxiIymgbJ8DB6WFB1ksLxZiSNM")⟩]

theorem identifies_sampleCaller (uri : Uri) :
    (sampleCaller uri).Identifies "secret" sampleInstant (.user Store.sampleGuid) := by
  rw [← principal?_eq_some_iff]
  show principal? "secret" sampleInstant (sampleCaller ⟨"", none⟩) = _
  decide +kernel

/-- The sample caller is listed with the org `1`, and asking for this org gives the same entry. -/
theorem listing_agrees_sample :
    let mine := sampleCaller ⟨"/users/@me/authorizations", none⟩
    let one := sampleCaller ⟨"/orgs/1/authorizations", some "expanded=true"⟩
    let service : Service := ⟨"secret", .inMemory .sample .seed⟩
    mine.Identifies "secret" sampleInstant (.user Store.sampleGuid) ∧ mine.AsksListing ∧
      one.Identifies "secret" sampleInstant (.user Store.sampleGuid) ∧ one.AsksExpanded ⟨1⟩ ∧
      ∃ entries document, (respond service sampleInstant mine).Shows 200
          (Json.ofFields [("authorizations", .array entries)]) ∧
        (respond service sampleInstant one).Shows 200 document ∧ document ∈ entries := by
  intro mine one service
  have hmine : mine.Identifies "secret" sampleInstant (.user Store.sampleGuid) :=
    identifies_sampleCaller _
  have hone : one.Identifies "secret" sampleInstant (.user Store.sampleGuid) :=
    identifies_sampleCaller _
  have hasks : mine.AsksListing := ⟨rfl, rfl⟩
  have hasksOne : one.AsksExpanded ⟨1⟩ := ⟨rfl, by decide +kernel, by decide +kernel⟩
  have hgranted : (Store.sample.grantOn .seed Store.sampleGuid ⟨1⟩).isSome = true := by
    decide +kernel
  obtain ⟨e, he, hid⟩ := (isSome_grantOn_iff _ _ _ _).1 hgranted
  obtain ⟨entries, hlisting, _, hsingle⟩ := listing_agrees .sample .seed hmine hasks
  obtain ⟨document, hdocument, _, hentry, _⟩ := hsingle ⟨1⟩ one (by decide) hone hasksOne
  have hentries : (Store.sample.listing .seed Store.sampleGuid).map entry = entries := by
    have hshown := (respond_listing .sample .seed hmine hasks).2.symm.trans hlisting.2
    simpa [Json.ofFields] using hshown
  rw [hentries] at he
  refine ⟨hmine, hasks, hone, hasksOne, entries, document, hlisting, hdocument, ?_⟩
  rw [hentry e he hid]
  exact he

end Service

end Web

end OrgAccess
