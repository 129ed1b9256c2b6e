import OrgAccess.Proofs.Principal
import OrgAccess.Proofs.Resolution.Refusal
import OrgAccess.Proofs.Web.Options

/-! Errors of the service. Whoever is let in has a principal without a blank product, and a product
field that is blank counts as none, so of all that a request may lack only a target can be missing.
That leaves each route about a single target with one error of its own, which its path decides, and
the listing with none. -/

namespace OrgAccess

/-! ## What a request of the service may lack -/

namespace Request

/-- A request by somebody, without a blank product and without a blank corp type, can only lack its
target. -/
theorem malformed_iff {principal : Principal} {target : Option Target} {corpType : Option String}
    (hproduct : ¬ LacksProduct ⟨some principal, target, corpType⟩)
    (htype : ∀ c, corpType = some c → ¬ Text.AllBlank c) (fault : RequestFault) :
    Malformed ⟨some principal, target, corpType⟩ fault ↔
      fault = .missingTarget ∧ LacksTarget ⟨some principal, target, corpType⟩ := by
  constructor
  · rintro (nobody | ⟨_, lacks⟩ | ⟨_, lacks⟩ | ⟨_, _, _, c, hc, hblank⟩)
    · cases nobody
    · exact ⟨rfl, lacks⟩
    · exact absurd lacks hproduct
    · exact absurd hblank (htype c hc)
  · rintro ⟨rfl, lacks⟩
    exact .target (by simp) lacks

/-- The product of a principal that claims make is never missing. -/
theorem not_lacksProduct {claims : Claims} {principal : Principal}
    (h : Principal.ofClaims claims = .ok principal) (target : Option Target)
    (corpType : Option String) : ¬ LacksProduct ⟨some principal, target, corpType⟩ := by
  rintro ⟨guid, product, hprincipal, hblank⟩
  cases hprincipal
  exact Principal.not_allBlank_of_ofClaims h hblank

end Request

namespace Source

/-- Whatever the source, it finds fault with a request only if the request is malformed. -/
theorem malformed_of_resolve {source : Source} {request : Request} {fault : RequestFault}
    (h : source.resolve request = .error (.request fault)) : request.Malformed fault := by
  cases hinquiry : request.inquiry with
  | error reason =>
    rw [resolve_of_fault hinquiry] at h
    cases h
    exact Request.inquiry_eq_error_iff.1 hinquiry
  | ok inquiry =>
    exfalso
    rw [resolve, hinquiry] at h
    change (source.answer inquiry).mapError ResolveFault.source = _ at h
    cases hanswer : source.answer inquiry with
    | error _ =>
      rw [hanswer] at h
      cases h
    | ok _ =>
      rw [hanswer] at h
      cases h

/-- A principal that claims make is answered about any target. -/
theorem exists_resolve_of_target {claims : Claims} {principal : Principal}
    (h : Principal.ofClaims claims = .ok principal) (s : Store) (table : PermissionTable)
    (target : Target) {corpType : Option String}
    (htype : ∀ c, corpType = some c → ¬ Text.AllBlank c)
    (htarget : ¬ Request.LacksTarget ⟨some principal, some target, corpType⟩) :
    ∃ answer, (inMemory s table).resolve ⟨some principal, some target, corpType⟩ = .ok answer := by
  refine (exists_resolve_eq_ok_iff s table _).2 ?_
  intro fault hmalformed
  obtain ⟨_, hlacks⟩ :=
    (Request.malformed_iff (Request.not_lacksProduct h _ _) htype fault).1 hmalformed
  exact htarget hlacks

end Source

namespace Web

open Json (ofText)

/-- The response is the problem of this code, as the client sees it. -/
def Response.Reports (response : Response) (code message : String) : Prop :=
  response.Shows 400 (Json.ofFields [("error", ofText code), ("message", ofText message)])

theorem Response.Reports.eq {response : Response} {code code' message message' : String}
    (h : response.Reports code message) (h' : response.Reports code' message') :
    code = code' ∧ message = message' := by
  have hdocument := Option.some.inj (h.2.symm.trans h'.2)
  simpa [Json.ofFields, ofText] using hdocument

namespace Route

/-- What the path and the query of the request give the route can be read. The listing is given
nothing. -/
def Readable (r : Request) : Route → Prop
  | .mine => True
  | .org segment =>
    (∃ text, Percent.text? segment = some text) ∧
      ∃ expanded, Web.expanded? (r.uri.query.getD "") = some expanded
  | .entity segment =>
    (∃ identifier, Percent.text? segment = some identifier) ∧
      ∃ expanded, Web.expanded? (r.uri.query.getD "") = some expanded

/-- The errors that routes have of their own: no org is named, or no entity. -/
inductive Errs : Route → String → String → Prop where
  | org {segment text : String} {fault : IdFault} (read : Percent.text? segment = some text)
      (noId : (Id.parse text : Except IdFault OrgId) = .error fault) :
      Errs (.org segment) "invalid_input" (fault.asDomainFault .org).message
  | entity {segment identifier : String} (read : Percent.text? segment = some identifier)
      (blank : Text.AllBlank identifier) : Errs (.entity segment) "missing_target" "missing target"

section Answer
variable {r : Request} {route : Route} (hread : route.Readable r) (s : Store)
  (table : PermissionTable)
include hread

theorem reports_of_errs {code message : String} (h : route.Errs code message)
    (principal : Principal) :
    (route.answer (.inMemory s table) principal r).Reports code message := by
  cases h with
  | org read noId =>
    obtain ⟨_, expanded, hexpanded⟩ := hread
    simp only [answer, read, hexpanded, noId]
    exact ⟨rfl, rfl⟩
  | entity read blank =>
    obtain ⟨_, expanded, hexpanded⟩ := hread
    have hlacks : OrgAccess.Request.LacksTarget (.of principal (.business _)) :=
      Or.inr ⟨_, rfl, blank⟩
    have hinquiry := OrgAccess.Request.inquiry_of_lacksTarget hlacks
    simp only [answer, read, hexpanded]
    rw [OrgAccess.Request.of, Source.resolve_of_fault hinquiry]
    exact ⟨rfl, rfl⟩

theorem status_of_no_error {claims : Claims} {principal : Principal}
    (hprincipal : Principal.ofClaims claims = .ok principal)
    (h : ∀ code message, ¬ route.Errs code message) :
    (route.answer (.inMemory s table) principal r).status = 200 := by
  cases route with
  | mine =>
    rw [answer, Source.resolveAll_inMemory]
    rfl
  | org segment =>
    obtain ⟨⟨text, htext⟩, expanded, hexpanded⟩ := hread
    cases hid : (Id.parse text : Except IdFault OrgId) with
    | error fault => exact absurd (Errs.org htext hid) (h _ _)
    | ok id =>
      have htype : ∀ c, productCode? r = some c → ¬ Text.AllBlank c :=
        fun _ => not_allBlank_of_productCode?
      obtain ⟨answer, hanswer⟩ := Source.exists_resolve_of_target hprincipal s table (.org id)
        htype (by simp [OrgAccess.Request.LacksTarget])
      simp only [Route.answer, htext, hexpanded, hid, hanswer]
      rfl
  | entity segment =>
    obtain ⟨⟨identifier, hidentifier⟩, expanded, hexpanded⟩ := hread
    have hblank : ¬ Text.AllBlank identifier :=
      fun hblank => h _ _ (Errs.entity hidentifier hblank)
    have htype : ∀ c, (none : Option String) = some c → ¬ Text.AllBlank c := by simp
    obtain ⟨answer, hanswer⟩ := Source.exists_resolve_of_target hprincipal s table
      (.business identifier) htype (by simpa [OrgAccess.Request.LacksTarget] using hblank)
    simp only [Route.answer, hidentifier, hexpanded, OrgAccess.Request.of, hanswer]
    rfl

end Answer

end Route

namespace Service

/-- Claims that make a principal, together with any product field, leave no text of a request blank
that the caller does not give in the path. -/
theorem resolve_ne_invalidInput {claims : Claims} {principal : Principal}
    (h : Principal.ofClaims claims = .ok principal) (source : Source) (target : Option Target)
    (r : Request) (fault : InputFault) :
    source.resolve ⟨some principal, target, productCode? r⟩ ≠
      .error (.request (.invalidInput fault)) := by
  intro hresolve
  have hmalformed := Source.malformed_of_resolve hresolve
  obtain ⟨hfault, _⟩ := (OrgAccess.Request.malformed_iff
    (OrgAccess.Request.not_lacksProduct h _ _) (fun _ => not_allBlank_of_productCode?) _).1
    hmalformed
  cases hfault

/-- Whoever is let in and asks for a route by GET, in a way that can be read, is answered with the
error of the route if it has one, and with a success otherwise, whatever is stored. The errors are
that a path names no org, that it names a blank entity, and no others; so nobody is refused at this
point, and the store is not at fault. In particular no principal that claims make and no product
field can bring about a blank product or a blank corp type, about whatever target and with whatever
source. -/
theorem own_errors {secret : String} {now : Instant} {r : Request} {principal : Principal}
    (hr : r.Identifies secret now principal) (hget : r.method = "GET") {route : Route}
    (hroute : Route.ofPath? r.uri.path = some route) (hread : route.Readable r) (s : Store)
    (table : PermissionTable) :
    let response := respond ⟨secret, .inMemory s table⟩ now r
    (∀ code message, response.Reports code message ↔ route.Errs code message) ∧
      (response.status = 400 ↔ ∃ code message, route.Errs code message) ∧
      (response.status = 200 ↔ ∀ code message, ¬ route.Errs code message) ∧
      response.status ≠ 401 ∧ response.status ≠ 500 ∧
      ∀ claims caller, Principal.ofClaims claims = .ok caller →
        ∀ (source : Source) (target : Option Target) (r' : Request) (fault : InputFault),
          source.resolve ⟨some caller, target, productCode? r'⟩ ≠
            .error (.request (.invalidInput fault)) := by
  intro response
  have hresponse : response = route.answer (.inMemory s table) principal r := by
    have hanswer := respond_of_route ((principal?_eq_some_iff _ _ _ _).2 hr) hroute
      (.inMemory s table)
    rw [hget] at hanswer
    exact hanswer
  have hcallers := fun claims caller (h : Principal.ofClaims claims = .ok caller) =>
    resolve_ne_invalidInput h
  obtain ⟨_, claims, _, _, hclaims⟩ := hr
  by_cases herr : ∃ code message, route.Errs code message
  · obtain ⟨code, message, herrs⟩ := herr
    have hreports : response.Reports code message := by
      rw [hresponse]
      exact Route.reports_of_errs hread s table herrs principal
    have hstatus : response.status = 400 := hreports.1
    refine ⟨?_, iff_of_true hstatus ⟨code, message, herrs⟩, ?_, by simp [hstatus],
      by simp [hstatus], hcallers⟩
    · intro code' message'
      constructor
      · intro hreports'
        obtain ⟨rfl, rfl⟩ := hreports.eq hreports'
        exact herrs
      · intro herrs'
        rw [hresponse]
        exact Route.reports_of_errs hread s table herrs' principal
    · exact iff_of_false (by simp [hstatus]) fun hnone => hnone code message herrs
  · have hnone : ∀ code message, ¬ route.Errs code message :=
      fun code message h => herr ⟨code, message, h⟩
    have hstatus : response.status = 200 := by
      rw [hresponse]
      exact Route.status_of_no_error hread s table hclaims hnone
    refine ⟨?_, iff_of_false (by simp [hstatus]) herr, iff_of_true hstatus hnone,
      by simp [hstatus], by simp [hstatus], hcallers⟩
    intro code message
    refine iff_of_false ?_ (hnone code message)
    intro hreports
    have h400 : response.status = 400 := hreports.1
    omega

/-- The sample caller names no org with `0`, and a blank entity with an escaped space. -/
theorem own_errors_sample :
    let org := sampleCaller ⟨"/orgs/0/authorizations", none⟩
    let entity := sampleCaller ⟨"/entities/%20/authorizations", none⟩
    let answer := respond ⟨"secret", .inMemory .sample .seed⟩ sampleInstant
    org.Identifies "secret" sampleInstant (.user Store.sampleGuid) ∧
      (Route.org "0").Readable org ∧ (Route.entity "%20").Readable entity ∧
      (answer org).Reports "invalid_input" "invalid identifier: OrgId: must be positive, got 0" ∧
      (answer entity).Reports "missing_target" "missing target" := by
  intro org entity answer
  have hquery : expanded? "" = some false := by decide +kernel
  have hzero : Percent.text? "0" = some "0" := by decide +kernel
  have hspace : Percent.text? "%20" = some " " := by decide +kernel
  have horg : (Route.org "0").Readable org := ⟨⟨"0", hzero⟩, false, hquery⟩
  have hentity : (Route.entity "%20").Readable entity := ⟨⟨" ", hspace⟩, false, hquery⟩
  have hrouteOrg : Route.ofPath? org.uri.path = some (.org "0") := by decide +kernel
  have hrouteEntity : Route.ofPath? entity.uri.path = some (.entity "%20") := by decide +kernel
  obtain ⟨hreportsOrg, _⟩ := own_errors (identifies_sampleCaller org.uri) rfl hrouteOrg horg
    .sample .seed
  obtain ⟨hreportsEntity, _⟩ := own_errors (identifies_sampleCaller entity.uri) rfl hrouteEntity
    hentity .sample .seed
  have hid : (Id.parse "0" : Except IdFault OrgId) = .error (.notPositive 0) := by rfl
  have hmessage : ((IdFault.notPositive 0).asDomainFault .org).message =
      "invalid identifier: OrgId: must be positive, got 0" := by
    decide +kernel
  exact ⟨identifies_sampleCaller _, horg, hentity,
    (hreportsOrg _ _).2 (hmessage ▸ .org hzero hid),
    (hreportsEntity _ _).2 (.entity hspace (by decide))⟩

end Service

/-! ## A closed pool -/

/-- One response says what comes of a source that cannot be read: a success of the other is an error
of the service, and anything else is the same. -/
def Response.FailsOf (closed stored : Response) : Prop :=
  closed = stored ∧ stored.status ≠ 200 ∨ closed.status = 500 ∧ stored.status = 200

theorem Response.ofRequestFault_status (fault : RequestFault) :
    (ofRequestFault fault).status ≠ 200 := by
  cases fault <;> simp [ofRequestFault]

theorem Response.failsOf_bare {status : ℕ} (h : status ≠ 200) :
    (bare status).FailsOf (bare status) :=
  Or.inl ⟨rfl, h⟩

theorem Response.failsOf_ofOutcome (request : OrgAccess.Request) (s : Store)
    (table : PermissionTable) (expanded : Bool) :
    (ofOutcome (Source.closedPool.resolve request) expanded).FailsOf
      (ofOutcome ((Source.inMemory s table).resolve request) expanded) := by
  rcases Source.resolve_closedPool request s table with
    ⟨fault, hstored, hclosed⟩ | ⟨inquiry, answer, _, hstored, hclosed⟩
  · rw [hstored, hclosed]
    exact Or.inl ⟨rfl, ofRequestFault_status fault⟩
  · rw [hstored, hclosed]
    exact Or.inr ⟨rfl, rfl⟩

theorem Route.failsOf_answer (route : Route) (principal : Principal) (r : Request) (s : Store)
    (table : PermissionTable) :
    (route.answer .closedPool principal r).FailsOf
      (route.answer (.inMemory s table) principal r) := by
  have hbad := Response.failsOf_bare (show 400 ≠ 200 by decide)
  cases route with
  | mine =>
    refine Or.inr ⟨rfl, ?_⟩
    rw [answer, Source.resolveAll_inMemory]
    rfl
  | org segment =>
    simp only [answer]
    split
    · split
      · exact Or.inl ⟨rfl, Response.ofRequestFault_status _⟩
      · exact Response.failsOf_ofOutcome _ s table _
    · exact hbad
  | entity segment =>
    simp only [answer]
    split
    · exact Response.failsOf_ofOutcome _ s table _
    · exact hbad

theorem Response.FailsOf.byMethod {closed stored : Response} (h : closed.FailsOf stored)
    (method : String) : (byMethod method closed).FailsOf (byMethod method stored) := by
  unfold Web.byMethod
  split
  · exact h
  · split
    · rcases h with ⟨rfl, hstatus⟩ | ⟨hclosed, hstored⟩
      · exact Or.inl ⟨rfl, hstatus⟩
      · exact Or.inr ⟨hclosed, hstored⟩
    · exact failsOf_bare (by decide)

/-- A service whose pool is closed tells its health as any other. To every other request it responds
as a service on tables in memory does, but that each success is an error of the service. -/
theorem Service.respond_closedPool (secret : String) (now : Instant) (r : Request) (s : Store)
    (table : PermissionTable) :
    let closed := respond ⟨secret, .closedPool⟩ now r
    let stored := respond ⟨secret, .inMemory s table⟩ now r
    (isHealth r.uri.path = true → closed = stored) ∧
      (isHealth r.uri.path = false → closed.FailsOf stored) := by
  intro closed stored
  refine ⟨fun hhealth => ?_, fun hhealth => ?_⟩
  · simp only [closed, stored, respond, hhealth, if_true]
  · simp only [closed, stored, respond, hhealth, Bool.false_eq_true, if_false]
    cases principal? secret now r with
    | none => exact Response.failsOf_bare (show 401 ≠ 200 by decide)
    | some principal =>
      cases Route.ofPath? r.uri.path with
      | none => exact Response.failsOf_bare (show 404 ≠ 200 by decide)
      | some route => exact (route.failsOf_answer principal r s table).byMethod r.method

end Web

end OrgAccess
