import OrgAccess.Token.Key

/-! The header of a signed token names the algorithm it is signed with. Its other registered
fields are not used, but they have to be of their types. -/

namespace OrgAccess.Token.Header

def fieldNames : List String :=
  ["typ", "alg", "cty", "jku", "jwk", "kid", "x5u", "x5c", "x5t", "x5t#S256"]

/-- The algorithm that a header names. -/
def algorithm? (j : Json) : Option Algorithm := do
  match ← Json.fields? fieldNames j with
  | [typ, alg, cty, jku, jwk, kid, x5u, x5c, x5t, x5t256] =>
    let _ ← [typ, cty, jku, kid, x5u, x5t, x5t256].mapM (Json.optional Json.text?)
    let _ ← Json.optional (fun key => if Key.isKey key then some key else none) jwk
    let _ ← Json.optional (Json.list? Json.text?) x5c
    Json.required Algorithm.ofJson? alg
  | _ => none

/-- The header of the tokens made here. -/
def json : Json :=
  .ofFields [("typ", .ofText "JWT"), ("alg", .ofText Algorithm.hs256.name)]

end OrgAccess.Token.Header
