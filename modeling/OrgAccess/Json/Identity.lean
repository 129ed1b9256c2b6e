import OrgAccess.Claims
import OrgAccess.Json.Codes

/-! Claims, principals and targets in JSON. The kind of a principal stands among its fields; the
kind of a target stands beside what it is of. -/

namespace OrgAccess

open Json (required optional fields? ofFields ofOption ofText text? members? atMostOnce?)

namespace Timestamp

def toJson (t : Timestamp) : Json := .ofInt t.seconds

def ofJson? (j : Json) : Option Timestamp := j.int?.bind ofInt?

end Timestamp

namespace Claims

def fieldNames : List String := ["sub", "roles", "product_code", "iat", "exp"]

/-- The product is left out when there is none. -/
def toJson (c : Claims) : Json :=
  ofFields ([("sub", c.subject.toJson), ("roles", Json.ofList ofText c.roles)] ++
    c.productCode.toList.map (fun product => ("product_code", ofText product)) ++
    [("iat", c.issuedAt.toJson), ("exp", c.expiresAt.toJson)])

/-- Roles may be absent, but not null. -/
def rolesOfJson? : Option Json → Option (List String)
  | none => some []
  | some j => j.list? text?

def ofJson? (j : Json) : Option Claims := do
  match ← fields? fieldNames j with
  | [subject, roles, product, issued, expires] =>
    return ⟨← required Guid.ofJson? subject, ← rolesOfJson? roles, ← optional text? product,
      ← required Timestamp.ofJson? issued, ← required Timestamp.ofJson? expires⟩
  | _ => none

end Claims

namespace Principal

def toJson (p : Principal) : Json :=
  ofFields ([("kind", ofText p.kind), ("keycloak_guid", p.guid.toJson)] ++
    match p with
    | .serviceAccount _ product => [("product_code", ofText product)]
    | _ => [])

/-- The fields of a principal of a kind, in an object or an array. -/
def ofKind? (kind : String) (j : Json) : Option Principal :=
  match kind with
  | "user" => do
    match ← fields? ["keycloak_guid"] j with
    | [guid] => return .user (← required Guid.ofJson? guid)
    | _ => none
  | "staff" => do
    match ← fields? ["keycloak_guid"] j with
    | [guid] => return .staff (← required Guid.ofJson? guid)
    | _ => none
  | "service_account" => do
    match ← fields? ["keycloak_guid", "product_code"] j with
    | [guid, product] =>
      return .serviceAccount (← required Guid.ofJson? guid) (← required text? product)
    | _ => none
  | _ => none

/-- The kind may come after the fields it gives a meaning to, so all of them have to be such as
can be kept. -/
def ofJson? (j : Json) : Option Principal :=
  if j.keepable 0 then
    match j with
    | .array (kind :: rest) => do ofKind? (← text? kind) (.array rest)
    | .object _ => do
      let ms ← members? j
      let kind ← required text? (← atMostOnce? ms "kind")
      ofKind? kind (ofFields (ms.filter fun m => m.1 ≠ "kind"))
    | _ => none
  else none

end Principal

namespace Target

def toJson : Target → Json
  | .org id => ofFields [("kind", ofText "org"), ("id", id.toJson)]
  | .business identifier => ofFields [("kind", ofText "business"), ("id", ofText identifier)]

def ofKind? (kind : String) (j : Json) : Option Target :=
  match kind with
  | "org" => (Id.ofJson? j).map .org
  | "business" => (text? j).map .business
  | _ => none

def ofJson? : Json → Option Target
  | .array [kind, id] => do ofKind? (← text? kind) id
  | j => do
    let ms ← members? j
    let kind ← required Json.code? (← atMostOnce? ms "kind")
    required (ofKind? kind) (← atMostOnce? ms "id")

end Target

end OrgAccess
