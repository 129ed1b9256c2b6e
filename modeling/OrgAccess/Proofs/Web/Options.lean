import OrgAccess.Proofs.Resolution.Narrowing
import OrgAccess.Proofs.Web.Body
import OrgAccess.Proofs.Web.Listing

/-! The options of a request: whether its answer is told in full, and the product that it is made
for. A full answer adds an account and a business to the short one. A product only takes away: it
either leaves what is told of the membership, the actions and the account as it was, or nothing is
granted any more. -/

namespace OrgAccess.Web

/-! ## Requests that differ in an option -/

def HeaderField.isProduct (field : HeaderField) : Bool :=
  field.name.toList.map Char.toLower = "product-code".toList

namespace Request

/-- The request with another query. -/
def withQuery (r : Request) (query : Option String) : Request :=
  { r with uri := { r.uri with query := query } }

/-- The same request but for its product fields. -/
structure SameButProduct (r r' : Request) : Prop where
  method : r'.method = r.method
  uri : r'.uri = r.uri
  headers : r'.headers.filter (fun field => ! field.isProduct) =
    r.headers.filter fun field => ! field.isProduct

/-- The request with product fields added, after those that it has. -/
structure AddsProduct (r r' : Request) : Prop extends SameButProduct r r' where
  products : r.headers.filter (·.isProduct) <+: r'.headers.filter (·.isProduct)

theorem SameButProduct.header? {r r' : Request} (h : r.SameButProduct r') {name : String}
    (hname : name ≠ "product-code") : r'.header? name = r.header? name := by
  have hskip : ∀ fields : List HeaderField,
      fields.find? (fun field => field.name.toList.map Char.toLower = name.toList) =
        (fields.filter fun field => ! field.isProduct).find? fun field =>
          field.name.toList.map Char.toLower = name.toList := by
    intro fields
    rw [List.find?_filter]
    congr 1
    funext field
    by_cases hfield : field.name.toList.map Char.toLower = name.toList
    · have hproduct : field.isProduct = false :=
        decide_eq_false fun heq => hname (String.toList_inj.1 (hfield.symm.trans heq))
      simp [hfield, hproduct]
    · simp [hfield]
  rw [Request.header?, Request.header?, hskip, h.headers, ← hskip]

/-- The first product field counts, so that one that is added counts only if it is the first. -/
theorem AddsProduct.productCode? {r r' : Request} (h : r.AddsProduct r') :
    Web.productCode? r' = Web.productCode? r ∨ Web.productCode? r = none := by
  have hfirst : ∀ q : Request, q.header? "product-code" =
      (q.headers.filter (·.isProduct)).head?.bind (·.text?) := by
    intro q
    rw [List.head?_filter]
    rfl
  rw [Web.productCode?, Web.productCode?, hfirst, hfirst]
  obtain ⟨added, hadded⟩ := h.products
  rw [← hadded]
  cases r.headers.filter (·.isProduct) with
  | nil => exact Or.inr rfl
  | cons field fields => exact Or.inl rfl

theorem SameButProduct.principal? {r r' : Request} (h : r.SameButProduct r') (secret : String)
    (now : Instant) : Web.principal? secret now r' = Web.principal? secret now r := by
  rw [Web.principal?, Web.principal?, bearerToken?, bearerToken?, h.header? (by decide)]

end Request

/-! ## Routes and their outcomes -/

/-- What the handler of a route finds out for a principal and a product, if it can read the part
that is given in the path. -/
def Route.outcome? (source : Source) (principal : Principal) (product : Option String) :
    Route → Option (Except ResolveFault (Option Authorization))
  | .org segment => (Percent.text? segment).map fun text =>
    match (Id.parse text : Except IdFault OrgId) with
    | .error fault => .error (.request (.ofDomain (fault.asDomainFault .org)))
    | .ok id => source.resolve ⟨some principal, some (.org id), product⟩
  | .entity segment => (Percent.text? segment).map fun identifier =>
    source.resolve (.of principal (.business identifier))
  | .mine => none

/-- An outcome is told once it is known whether to tell it in full. -/
def Response.ofOutcome? (outcome : Option (Except ResolveFault (Option Authorization)))
    (expanded : Option Bool) : Response :=
  match outcome, expanded with
  | some outcome, some expanded => .ofOutcome outcome expanded
  | _, _ => .bare 400

theorem Route.answer_eq {route : Route} (hmine : route ≠ .mine) (source : Source)
    (principal : Principal) (r : Request) : route.answer source principal r =
      .ofOutcome? (route.outcome? source principal (productCode? r))
        (expanded? (r.uri.query.getD "")) := by
  cases route with
  | mine => exact absurd rfl hmine
  | org segment =>
    rw [answer, outcome?]
    cases Percent.text? segment with
    | none => rfl
    | some text =>
      cases expanded? (r.uri.query.getD "") with
      | none => rfl
      | some expanded =>
        cases hid : (Id.parse text : Except IdFault OrgId) with
        | error fault => simp [Response.ofOutcome?, Response.ofOutcome, Response.ofFault, hid]
        | ok id => simp [Response.ofOutcome?, hid]
  | entity segment =>
    rw [answer, outcome?]
    cases Percent.text? segment with
    | none => rfl
    | some identifier => cases expanded? (r.uri.query.getD "") <;> rfl

/-- The product matters only to those who ask about an org, and not to staff. -/
theorem Route.outcome?_staff (route : Route) (source : Source) (guid : Guid)
    (product product' : Option String) :
    route.outcome? source (.staff guid) product = route.outcome? source (.staff guid) product' := by
  cases route <;> rfl

theorem Route.ofPath?_of_isHealth {path : String} (h : isHealth path = true) :
    ofPath? path = none := by
  have hpath : path = "/health" := of_decide_eq_true h
  subst hpath
  decide +kernel

theorem Service.respond_of_route {secret : String} {now : Instant} {r : Request}
    {principal : Principal} (h : principal? secret now r = some principal) {route : Route}
    (hroute : Route.ofPath? r.uri.path = some route) (source : Source) :
    respond ⟨secret, source⟩ now r = byMethod r.method (route.answer source principal r) := by
  have hhealth : isHealth r.uri.path = false := by
    cases hp : isHealth r.uri.path with
    | false => rfl
    | true =>
      rw [Route.ofPath?_of_isHealth hp] at hroute
      cases hroute
  simp only [respond, hhealth, h, hroute]
  rfl

/-! ## Full and short answers -/

namespace Response

/-- What is told in full is the short answer with perhaps an account and a business. -/
structure Extends (full short : Response) : Prop where
  status : full.status = short.status
  document : full.body.toJson?.map (Json.without ["account", "business"]) = short.body.toJson?

theorem Extends.refl_bare (status : Nat) : (bare status).Extends (bare status) := ⟨rfl, rfl⟩

theorem ofFault_extends (fault : ResolveFault) : (ofFault fault).Extends (ofFault fault) := by
  cases fault with
  | source fault => exact ⟨rfl, rfl⟩
  | request fault => cases fault <;> exact ⟨rfl, rfl⟩

theorem ofOutcome?_extends (outcome : Option (Except ResolveFault (Option Authorization))) :
    (ofOutcome? outcome (some true)).Extends (ofOutcome? outcome (some false)) := by
  cases outcome with
  | none => exact .refl_bare 400
  | some outcome =>
    cases outcome with
    | error fault => exact ofFault_extends fault
    | ok answer =>
      cases answer with
      | none => exact ⟨rfl, rfl⟩
      | some a => exact ⟨rfl, congrArg some (Grant.without_details a)⟩

theorem Extends.byMethod {full short : Response} (h : full.Extends short) (method : String) :
    (byMethod method full).Extends (byMethod method short) := by
  unfold Web.byMethod
  split
  · exact h
  · split
    · rw [h.status]
      exact .refl_bare _
    · exact .refl_bare _

theorem member?_account_ofFault (fault : ResolveFault) :
    (ofFault fault).member? "account" = none := by
  cases fault with
  | source fault => rfl
  | request fault => cases fault <;> rfl

theorem member?_byMethod {response : Response} {key : String} (h : response.member? key = none)
    (method : String) : (byMethod method response).member? key = none := by
  unfold Web.byMethod
  split
  · exact h
  · split <;> rfl

/-- A full answer tells of an account when something is granted. -/
theorem isSome_account_iff (outcome : Option (Except ResolveFault (Option Authorization))) :
    ((ofOutcome? outcome (some true)).member? "account").isSome = true ↔
      ∃ a, outcome = some (.ok (some a)) := by
  match outcome with
  | none => simp [ofOutcome?, bare, member?, Body.toJson?]
  | some (.error fault) => simp [ofOutcome?, ofOutcome, member?_account_ofFault]
  | some (.ok none) => simp [ofOutcome?, ofOutcome, member?, Body.toJson?, Grant.member?_account,
      Grant.ofOption, Grant.empty]
  | some (.ok (some a)) => simp [ofOutcome?, ofOutcome, member?, Body.toJson?,
      Grant.member?_account, Grant.ofOption, Grant.of]

/-- A short answer tells of no account. -/
theorem account_of_short (outcome : Option (Except ResolveFault (Option Authorization))) :
    (ofOutcome? outcome (some false)).member? "account" = none := by
  match outcome with
  | none => rfl
  | some (.error fault) => exact member?_account_ofFault fault
  | some (.ok none) => rfl
  | some (.ok (some a)) => rfl

end Response

/-! ## Answers for a product -/

namespace Response

/-- The status and all that is told but for the business is kept, or a success grants nothing any
more. -/
def Narrows (wide narrow : Response) : Prop :=
  (narrow.status = wide.status ∧
      ∀ key, key ≠ "business" → narrow.member? key = wide.member? key) ∨
    (wide.status = 200 ∧ narrow.Shows 200 nothingGranted)

theorem narrows_refl (response : Response) : response.Narrows response :=
  Or.inl ⟨rfl, fun _ _ => rfl⟩

theorem narrows_of_outcome {wide narrow : Except ResolveFault (Option Authorization)}
    (h : Source.Narrows wide narrow) (expanded : Option Bool) :
    (ofOutcome? (some wide) expanded).Narrows (ofOutcome? (some narrow) expanded) := by
  cases expanded with
  | none => exact narrows_refl _
  | some expanded =>
    cases h with
    | same => exact narrows_refl _
    | nothing answer => exact Or.inr ⟨rfl, rfl, congrArg some Grant.toJson_empty⟩
    | business a business =>
      refine Or.inl ⟨rfl, fun key hkey => ?_⟩
      cases expanded with
      | true => exact Grant.member?_business (Grant.of a true) business hkey
      | false => rfl

theorem Narrows.byMethod {wide narrow : Response} (h : wide.Narrows narrow) (method : String) :
    (byMethod method wide).Narrows (byMethod method narrow) := by
  unfold Web.byMethod
  split
  · exact h
  · split
    · have hstatus : narrow.status = wide.status := by
        rcases h with ⟨hstatus, _⟩ | ⟨hwide, hnarrow⟩
        · exact hstatus
        · rw [hwide, hnarrow.1]
      rw [hstatus]
      exact narrows_refl _
    · exact narrows_refl _

end Response

namespace Route

/-- A product that is added only narrows what comes of a route. -/
theorem outcome?_narrows {s : Store} (hs : s.Integrity) (table : PermissionTable) (route : Route)
    (principal : Principal) {c : String} (hc : ¬ Text.AllBlank c) (expanded : Option Bool) :
    (Response.ofOutcome? (route.outcome? (.inMemory s table) principal none) expanded).Narrows
      (.ofOutcome? (route.outcome? (.inMemory s table) principal (some c)) expanded) := by
  cases route with
  | mine => exact Response.narrows_refl _
  | entity segment => exact Response.narrows_refl _
  | org segment =>
    rw [outcome?, outcome?]
    cases Percent.text? segment with
    | none => exact Response.narrows_refl _
    | some text =>
      cases hid : (Id.parse text : Except IdFault OrgId) with
      | error fault =>
        simp only [Option.map_some, hid]
        exact Response.narrows_refl _
      | ok id =>
        simp only [Option.map_some, hid]
        exact Response.narrows_of_outcome
          (Source.narrows_of_corpType hs table principal id hc) expanded

end Route

/-! ## The options of a request -/

theorem not_allBlank_of_productCode? {r : Request} {c : String} (h : productCode? r = some c) :
    ¬ Text.AllBlank c := by
  obtain ⟨value, _, hvalue⟩ := Option.bind_eq_some_iff.1 h
  exact Text.not_allBlank_of_nonBlank? hvalue

namespace Service

section Answered
variable {secret : String} {now : Instant} {principal : Principal} {r : Request}
  (hr : principal? secret now r = some principal) {route : Route}
  (hroute : Route.ofPath? r.uri.path = some route) (hmine : route ≠ .mine)
include hr hroute hmine

theorem respond_outcome (source : Source) : respond ⟨secret, source⟩ now r =
    byMethod r.method (.ofOutcome? (route.outcome? source principal (productCode? r))
      (expanded? (r.uri.query.getD ""))) := by
  rw [respond_of_route hr hroute, Route.answer_eq hmine]

/-- The answer to the same request for another product differs by what comes of that product. -/
theorem respond_of_same (source : Source) {r' : Request} (h : r.SameButProduct r') :
    respond ⟨secret, source⟩ now r' =
      byMethod r.method (.ofOutcome? (route.outcome? source principal (productCode? r'))
        (expanded? (r.uri.query.getD ""))) := by
  have hr' : principal? secret now r' = some principal := (h.principal? secret now).trans hr
  have hroute' : Route.ofPath? r'.uri.path = some route := by rw [h.uri, hroute]
  rw [respond_outcome hr' hroute' hmine, h.method, h.uri]

/-- A full answer extends the short one, by an account if something is granted. -/
theorem respond_expanded_or_not (source : Source) {full short : Option String}
    (hfull : expanded? (full.getD "") = some true)
    (hshort : expanded? (short.getD "") = some false) :
    (respond ⟨secret, source⟩ now (r.withQuery full)).Extends
        (respond ⟨secret, source⟩ now (r.withQuery short)) ∧
      (respond ⟨secret, source⟩ now (r.withQuery short)).member? "account" = none ∧
      (r.method = "GET" →
        (((respond ⟨secret, source⟩ now (r.withQuery full)).member? "account").isSome = true ↔
          ∃ a, route.outcome? source principal (productCode? r) = some (.ok (some a)))) := by
  have hquery : ∀ query, respond ⟨secret, source⟩ now (r.withQuery query) =
      byMethod r.method (.ofOutcome? (route.outcome? source principal (productCode? r))
        (expanded? (query.getD ""))) :=
    fun query => respond_outcome (r := r.withQuery query) hr hroute hmine source
  rw [hquery, hquery, hfull, hshort]
  refine ⟨(Response.ofOutcome?_extends _).byMethod _, ?_, ?_⟩
  · exact Response.member?_byMethod (Response.account_of_short _) r.method
  · intro hget
    rw [hget]
    exact Response.isSome_account_iff _

theorem respond_of_added {s : Store} (hs : s.Integrity) (table : PermissionTable) {r' : Request}
    (h : r.AddsProduct r') : (respond ⟨secret, .inMemory s table⟩ now r).Narrows
      (respond ⟨secret, .inMemory s table⟩ now r') := by
  rw [respond_outcome hr hroute hmine, respond_of_same hr hroute hmine _ h.toSameButProduct]
  refine Response.Narrows.byMethod ?_ _
  rcases h.productCode? with hsame | hnone
  · rw [hsame]
    exact Response.narrows_refl _
  · rw [hnone]
    cases hc : productCode? r' with
    | none => exact Response.narrows_refl _
    | some c => exact route.outcome?_narrows hs table principal (not_allBlank_of_productCode? hc) _

theorem respond_of_unaffected (source : Source) {r' : Request} (h : r.SameButProduct r')
    (hunaffected : (∃ segment, route = .entity segment) ∨ ∃ guid, principal = .staff guid) :
    respond ⟨secret, source⟩ now r' = respond ⟨secret, source⟩ now r := by
  have houtcome : route.outcome? source principal (productCode? r') =
      route.outcome? source principal (productCode? r) := by
    rcases hunaffected with ⟨segment, rfl⟩ | ⟨guid, rfl⟩
    · rfl
    · exact route.outcome?_staff source guid _ _
  rw [respond_outcome hr hroute hmine, respond_of_same hr hroute hmine _ h, houtcome]

end Answered

/-- No option of a request widens its answer. A full answer is the short one but for the account
and the business, and tells of an account when something is granted. Product fields that are added
keep the status and all that is told but for the business, or a success grants nothing any more. On
entities, and for staff, product fields do not matter at all. -/
theorem options_never_widen {s : Store} (h : s.Reachable) (table : PermissionTable)
    {secret : String} {now : Instant} {principal : Principal} {r : Request}
    (hr : r.Identifies secret now principal) {route : Route}
    (hroute : Route.ofPath? r.uri.path = some route) (hmine : route ≠ .mine) :
    let answer := respond ⟨secret, .inMemory s table⟩ now
    (∀ full short, expanded? (full.getD "") = some true → expanded? (short.getD "") = some false →
        (answer (r.withQuery full)).Extends (answer (r.withQuery short)) ∧
        (answer (r.withQuery short)).member? "account" = none ∧
        (r.method = "GET" → (((answer (r.withQuery full)).member? "account").isSome = true ↔
          ∃ a, route.outcome? (.inMemory s table) principal (productCode? r) =
            some (.ok (some a))))) ∧
      (∀ r', r.AddsProduct r' → (answer r).Narrows (answer r')) ∧
      ∀ r', r.SameButProduct r' →
        (∃ segment, route = .entity segment) ∨ (∃ guid, principal = .staff guid) →
        answer r' = answer r := by
  have hprincipal := (principal?_eq_some_iff _ _ _ _).2 hr
  refine ⟨?_, ?_, ?_⟩
  · intro full short hfull hshort
    exact respond_expanded_or_not hprincipal hroute hmine _ hfull hshort
  · intro r' hadded
    exact respond_of_added hprincipal hroute hmine h.integrity table hadded
  · intro r' hsame hunaffected
    exact respond_of_unaffected hprincipal hroute hmine _ hsame hunaffected

/-- A type that no entity of the sample store has, between blanks. -/
def sampleProduct : HeaderField := ⟨"Product-Code", Text.toUtf8 " XX "⟩

/-- The sample caller is told of an account in full, and a product added narrows the answer. -/
theorem options_never_widen_sample :
    let r := sampleCaller ⟨"/orgs/1/authorizations", some "expanded=true"⟩
    let r' : Request := { r with headers := r.headers ++ [sampleProduct] }
    let answer := respond ⟨"secret", .inMemory .sample .seed⟩ sampleInstant
    Store.sample.Reachable ∧ r.Identifies "secret" sampleInstant (.user Store.sampleGuid) ∧
      Route.ofPath? r.uri.path = some (.org "1") ∧ r.AddsProduct r' ∧
      ((answer r).member? "account").isSome = true ∧ (answer r).Narrows (answer r') := by
  intro r r' answer
  have hr : r.Identifies "secret" sampleInstant (.user Store.sampleGuid) :=
    identifies_sampleCaller _
  have hroute : Route.ofPath? r.uri.path = some (.org "1") := by decide +kernel
  have hadds : r.AddsProduct r' :=
    { method := rfl
      uri := rfl
      headers := by decide +kernel
      products := ⟨[sampleProduct], by decide +kernel⟩ }
  have houtcome : (Route.org "1").outcome? (.inMemory .sample .seed) (.user Store.sampleGuid)
      (productCode? r) = some (.ok (Store.sample.grantOn .seed Store.sampleGuid ⟨1⟩)) := by
    have htext : Percent.text? "1" = some "1" := by decide +kernel
    have hid : (Id.parse "1" : Except IdFault OrgId) = .ok ⟨1⟩ := by rfl
    have hproduct : productCode? r = none := by decide +kernel
    rw [Route.outcome?, htext, Option.map_some, hid, hproduct]
    exact congrArg some (Store.resolve_eq_grantOn _ _ _ _)
  have hgranted : (Store.sample.grantOn .seed Store.sampleGuid ⟨1⟩).isSome = true := by
    decide +kernel
  obtain ⟨a, ha⟩ := Option.isSome_iff_exists.1 hgranted
  rw [ha] at houtcome
  obtain ⟨hquery, hproduct, _⟩ := options_never_widen Store.reachable_sample .seed hr hroute
    (by decide)
  obtain ⟨_, _, haccount⟩ := hquery (some "expanded=true") none expanded?_true (by decide +kernel)
  exact ⟨Store.reachable_sample, hr, hroute, hadds, (haccount rfl).2 ⟨a, houtcome⟩,
    hproduct r' hadds⟩

end Service

end OrgAccess.Web
