import OrgAccess.Token.Bearer
import OrgAccess.Web.Percent
import OrgAccess.Web.Request
import OrgAccess.Web.Response

/-! The service: it answers web requests out of a source. Its health is told to anyone. Every
other request has to bear a token first, and only then does it matter whether its path and its
method are known. -/

namespace OrgAccess.Web

/-- The paths that are known. An identifier is given as it stands in the path. -/
inductive Route where
  | org (segment : String)
  | entity (segment : String)
  | mine
  deriving DecidableEq

/-- The parts of a path between slashes. -/
def segments (path : String) : List String :=
  path.toList.splitOn '/' |>.map String.ofList

def isHealth (path : String) : Bool := path = "/health"

def Route.ofPath? (path : String) : Option Route :=
  match segments path with
  | ["", "orgs", segment, "authorizations"] => some (.org segment)
  | ["", "entities", segment, "authorizations"] => some (.entity segment)
  | ["", "users", "@me", "authorizations"] => some .mine
  | _ => none

/-- The token of a request, from its first authorization field. -/
def bearerToken? (r : Request) : Option String := do
  let value ← r.header? "authorization"
  let scheme := "Bearer ".toList
  if value.toList.take scheme.length = scheme then
    Text.nonBlank? (String.ofList (value.toList.drop scheme.length))
  else none

/-- The principal that a request bears a valid token of. -/
def principal? (secret : String) (now : Instant) (r : Request) : Option Principal := do
  let token ← bearerToken? r
  match Token.validate (Text.toUtf8 secret) token now.clock now with
  | .error _ => none
  | .ok claims =>
    match Principal.ofClaims claims with
    | .error _ => none
    | .ok principal => some principal

/-- The corp type or product that a caller acts for. -/
def productCode? (r : Request) : Option String := (r.header? "product-code").bind Text.nonBlank?

/-- The values of a query under a name. -/
def queryValues (query : String) (name : String) : List (Option String) :=
  ((query.toList.splitOn '&').map (splitFirst '=')).filterMap fun (key, value) =>
    if Percent.formText? (String.ofList key) = some name then
      some (Percent.formText? (String.ofList (value.getD [])))
    else none

/-- Whether an expanded answer is asked for: once at most, and by name. -/
def expanded? (query : String) : Option Bool :=
  match queryValues query "expanded" with
  | [] => some false
  | [some "true"] => some true
  | [some "false"] => some false
  | _ => none

def Route.answer (source : Source) (principal : Principal) (r : Request) : Route → Response
  | .mine => .ofListing (source.resolveAll principal.guid)
  | .org segment =>
    match Percent.text? segment, expanded? (r.uri.query.getD "") with
    | some text, some expanded =>
      match (Id.parse text : Except IdFault OrgId) with
      | .error fault => .ofRequestFault (.ofDomain (fault.asDomainFault .org))
      | .ok id =>
        .ofOutcome (source.resolve ⟨some principal, some (.org id), productCode? r⟩) expanded
    | _, _ => .bare 400
  | .entity segment =>
    match Percent.text? segment, expanded? (r.uri.query.getD "") with
    | some identifier, some expanded =>
      .ofOutcome (source.resolve (.of principal (.business identifier))) expanded
    | _, _ => .bare 400

/-- Answer as the method wants it: GET in full, HEAD without the body, and nothing else. -/
def byMethod (method : String) (response : Response) : Response :=
  if method = "GET" then response
  else if method = "HEAD" then .bare response.status
  else .bare 405

structure Service where
  secret : String
  source : Source

/-- The response to a request at a moment. -/
def Service.respond (service : Service) (now : Instant) (r : Request) : Response :=
  if isHealth r.uri.path then byMethod r.method (.bare 200)
  else
    match principal? service.secret now r with
    | none => .bare 401
    | some principal =>
      match Route.ofPath? r.uri.path with
      | none => .bare 404
      | some route => byMethod r.method (route.answer service.source principal r)

end OrgAccess.Web
