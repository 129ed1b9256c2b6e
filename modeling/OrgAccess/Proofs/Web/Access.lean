import OrgAccess.Proofs.Store.Integrity
import OrgAccess.Web.Service

/-! Access to the service. A request is identified by the token in its first authorization field:
the token has to be signed with the secret, to hold at the moment, and to make a principal. A
request without a principal is answered before any read of the source. -/

namespace OrgAccess.Web

/-- The first authorization field reads `Bearer`, a space and the token. Blanks around the token do
not belong to it. -/
def Request.Bears (r : Request) (token : String) : Prop :=
  ∃ rest, r.header? "authorization" = some ("Bearer " ++ rest) ∧ Text.trim rest = token ∧
    token ≠ ""

/-- The request bears a token that the secret accepts at the moment, with claims that make the
principal. -/
def Request.Identifies (r : Request) (secret : String) (now : Instant) (principal : Principal) :
    Prop :=
  ∃ token claims, r.Bears token ∧
    Token.validate (Text.toUtf8 secret) token now.clock now = .ok claims ∧
    Principal.ofClaims claims = .ok principal

theorem bearerToken?_eq_some_iff (r : Request) (token : String) :
    bearerToken? r = some token ↔ r.Bears token := by
  unfold bearerToken? Request.Bears
  generalize "Bearer " = scheme
  cases r.header? "authorization" with
  | none => simp
  | some value =>
    simp only [Option.bind_eq_bind, Option.bind_some, Option.some.injEq]
    constructor
    · intro h
      split at h
      · rename_i hscheme
        refine ⟨_, ?_, (Text.nonBlank?_eq_some_iff _ token).1 h⟩
        have hsplit := List.take_append_drop scheme.toList.length value.toList
        rw [hscheme] at hsplit
        rw [← String.toList_inj, String.toList_append, String.toList_ofList, hsplit]
      · cases h
    · rintro ⟨rest, rfl, htoken⟩
      rw [String.toList_append, List.take_left, List.drop_left, String.ofList_toList, if_pos rfl]
      exact (Text.nonBlank?_eq_some_iff rest token).2 htoken

theorem principal?_eq_some_iff (secret : String) (now : Instant) (r : Request)
    (principal : Principal) :
    principal? secret now r = some principal ↔ r.Identifies secret now principal := by
  unfold principal? Request.Identifies
  simp only [← bearerToken?_eq_some_iff]
  cases bearerToken? r with
  | none => simp
  | some token =>
    simp only [Option.bind_eq_bind, Option.bind_some, Option.some.injEq]
    cases hclaims : Token.validate (Text.toUtf8 secret) token now.clock now with
    | error fault => simp [hclaims]
    | ok claims => cases hprincipal : Principal.ofClaims claims <;> simp [hclaims, hprincipal]

/-- The path of a route. -/
def Route.path : Route → String
  | .org segment => "/orgs/" ++ segment ++ "/authorizations"
  | .entity segment => "/entities/" ++ segment ++ "/authorizations"
  | .mine => "/users/@me/authorizations"

/-- No route is where the health of the service is told. -/
theorem Route.isHealth_path (route : Route) : isHealth route.path = false := by
  refine decide_eq_false ?_
  intro h
  have hchar := congrArg (fun s => s.toList[1]?) h
  cases route <;> simp [path] at hchar

/-! ## Refusals -/

/-- A fault of a request or of the source is told with a problem, and so it is no bare refusal. -/
theorem Response.ofFault_ne_refusal (fault : ResolveFault) : ofFault fault ≠ .bare 401 := by
  cases fault with
  | source fault => simp [ofFault, ofSourceFault, bare]
  | request fault => cases fault <;> simp [ofFault, ofRequestFault, bare]

theorem Response.ofOutcome_ne_refusal (outcome : Except ResolveFault (Option Authorization))
    (expanded : Bool) : ofOutcome outcome expanded ≠ .bare 401 := by
  cases outcome with
  | ok a => simp [ofOutcome, bare]
  | error fault => exact ofFault_ne_refusal fault

/-- Once a request has reached its route it is not refused any more. -/
theorem Route.answer_ne_refusal (route : Route) (source : Source) (principal : Principal)
    (r : Request) : route.answer source principal r ≠ .bare 401 := by
  have hbad : Response.bare 400 ≠ .bare 401 := by decide
  cases route with
  | mine =>
    simp only [answer]
    cases source.resolveAll principal.guid with
    | ok as => simp [Response.ofListing, Response.bare]
    | error fault => exact Response.ofFault_ne_refusal (.source fault)
  | org segment =>
    simp only [answer]
    split
    · split
      · rename_i fault _
        exact Response.ofFault_ne_refusal (.request (.ofDomain (fault.asDomainFault .org)))
      · exact Response.ofOutcome_ne_refusal _ _
    · exact hbad
  | entity segment =>
    simp only [answer]
    split
    · exact Response.ofOutcome_ne_refusal _ _
    · exact hbad

/-- Whoever does not bear a valid token is told the health of the service and nothing else. -/
theorem Service.respond_of_unidentified {secret : String} {now : Instant} {r : Request}
    (h : ∀ principal, ¬ r.Identifies secret now principal) (source : Source) :
    respond ⟨secret, source⟩ now r =
      if isHealth r.uri.path then byMethod r.method (.bare 200) else .bare 401 := by
  have hnone : principal? secret now r = none := by
    cases hp : principal? secret now r with
    | none => rfl
    | some principal => exact absurd ((principal?_eq_some_iff _ _ _ _).1 hp) (h principal)
  simp only [respond, hnone]

/-- A principal who asks by GET is not refused, wherever the path leads. -/
theorem Service.respond_of_identified {secret : String} {now : Instant} {r : Request}
    {principal : Principal} (h : r.Identifies secret now principal) (hget : r.method = "GET")
    (source : Source) : respond ⟨secret, source⟩ now r ≠ .bare 401 := by
  have hhealth : byMethod "GET" (.bare 200) ≠ .bare 401 := by decide
  simp only [respond, (principal?_eq_some_iff _ _ _ _).2 h, hget]
  split
  · exact hhealth
  · split
    · decide
    · rename_i route _
      exact route.answer_ne_refusal source principal r

/-- A request without a valid principal learns nothing of what is stored: any two sources answer it
alike. On the protected routes such requests are refused, and no others are. -/
theorem Service.respond_blind (secret : String) (now : Instant) (r : Request) :
    ((∀ principal, ¬ r.Identifies secret now principal) →
        ∀ a b : Source, respond ⟨secret, a⟩ now r = respond ⟨secret, b⟩ now r) ∧
      ∀ (source : Source) (route : Route), r.uri.path = route.path → r.method = "GET" →
        (respond ⟨secret, source⟩ now r = .bare 401 ↔
          ∀ principal, ¬ r.Identifies secret now principal) := by
  constructor
  · intro h a b
    rw [respond_of_unidentified h, respond_of_unidentified h]
  · intro source route hpath hget
    constructor
    · intro hrefused principal hp
      exact respond_of_identified hp hget source hrefused
    · intro h
      rw [respond_of_unidentified h, hpath, route.isHealth_path]
      rfl

/-- Somebody asks about the org `1` with a token of the right form that is not signed. -/
def sampleRequest : Request where
  method := "GET"
  uri := ⟨"/orgs/1/authorizations", none⟩
  headers := [⟨"Authorization", Text.toUtf8 "Bearer eyJhbGciOiJIUzI1NiJ9.e30.x"⟩]

def sampleInstant : Instant := ⟨⟨1780000000, by decide⟩, ⟨0, by decide⟩⟩

/-- The request bears its token, and the sample and the empty store refuse it alike. -/
theorem Service.respond_blind_sample :
    sampleRequest.Bears "eyJhbGciOiJIUzI1NiJ9.e30.x" ∧
      (∀ principal, ¬ sampleRequest.Identifies "secret" sampleInstant principal) ∧
      respond ⟨"secret", .inMemory Store.sample .seed⟩ sampleInstant sampleRequest =
        respond ⟨"secret", .inMemory Store.empty .seed⟩ sampleInstant sampleRequest ∧
      sampleRequest.uri.path = (Route.org "1").path ∧ sampleRequest.method = "GET" ∧
      respond ⟨"secret", .inMemory Store.sample .seed⟩ sampleInstant sampleRequest =
        .bare 401 := by
  have hbears : bearerToken? sampleRequest = some "eyJhbGciOiJIUzI1NiJ9.e30.x" := by
    decide +kernel
  have hnone : principal? "secret" sampleInstant sampleRequest = none := by decide +kernel
  have h : ∀ principal, ¬ sampleRequest.Identifies "secret" sampleInstant principal := by
    intro principal hp
    rw [← principal?_eq_some_iff, hnone] at hp
    cases hp
  obtain ⟨halike, hrefused⟩ := respond_blind "secret" sampleInstant sampleRequest
  exact ⟨(bearerToken?_eq_some_iff _ _).1 hbears, h, halike h _ _, by decide, by decide,
    (hrefused _ (.org "1") (by decide) (by decide)).2 h⟩

end OrgAccess.Web
