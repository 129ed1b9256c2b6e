import OrgAccess.Claims
import OrgAccess.Json.Attempt
import OrgAccess.Json.Fields

/-! The registered claims of a payload. Issuer, audience and the time before which a token does
not hold are not used, and may be of any type as long as the payload can be read past them; each
occurs at most once. An audience, if there is one, is an audience other than this service. The
expiry is registered too, as a second from 1970 on. -/

namespace OrgAccess.Token

open Json (Attempt)

/-- What is left after a value that is no container. -/
def afterScalar (bs : List UInt8) : List UInt8 :=
  match Json.Token.next? bs with
  | some (.null, rest) => rest
  | some (.bool _, rest) => rest
  | some (.number n, rest) => if n.fitsDouble then rest else Json.Token.halt bs
  | some (.string l, rest) => if l.isText then rest else Json.Token.halt bs
  | _ => Json.Token.halt bs

/-- What is left after a time. A container is opened, and closed at once. -/
def afterTime (bs : List UInt8) : List UInt8 :=
  match Json.Token.next? bs with
  | some (.openArray, rest) => Json.Bracket.square.close rest
  | some (.openObject, rest) => Json.Bracket.curly.close rest
  | _ => afterScalar bs

def registeredNames : List String := ["exp", "nbf", "sub", "iss", "aud"]

/-- Read the value of a member. A party is kept; it may be of any type, and 127 deep together with
the payload. What is not registered is passed over, but has to be whole. -/
def readValue? (key : String) (bs : List UInt8) : Option (Option Json × List UInt8) :=
  match key with
  | "exp" => some (none, afterTime (Json.Token.skipSpace bs))
  | "nbf" => some (none, afterTime (Json.Token.skipSpace bs))
  | "sub" => some (none, afterScalar (Json.Token.skipSpace bs))
  | "iss" => let party := Attempt.keep 126 bs; some (party.value?, party.rest)
  | "aud" => let party := Attempt.keep 126 bs; some (party.value?, party.rest)
  | _ =>
    match Attempt.pass bs with
    | .complete _ rest => some (none, rest)
    | .stuck _ _ => none

/-- Read a key and its colon. -/
def readKey? (bs : List UInt8) : Option (String × List UInt8) :=
  match Json.Token.next? (Json.Token.skipSpace bs) with
  | some (.string (.text key), rest) =>
    match Json.Token.next? (Json.Token.skipSpace rest) with
    | some (.colon, rest) => some (key, rest)
    | _ => none
  | _ => none

/-- Read members up to the end of the payload: their keys, and the values that are kept. There
are no more members than `bound`. -/
def readMembers? : Nat → List UInt8 → Option (List (String × Option Json))
  | 0, _ => none
  | bound + 1, bs => do
    let (key, bs) ← readKey? bs
    let (value, bs) ← readValue? key bs
    match Json.Token.next? (Json.Token.skipSpace bs) with
    | some (.comma, bs) => return (key, value) :: (← readMembers? bound bs)
    | some (.closeObject, bs) =>
      if Json.Token.skipSpace bs = [] then return [(key, value)] else none
    | _ => none

/-- A text, or a list of texts. -/
def isAudience (j : Json) : Bool := (Json.text? j).isSome || (Json.list? Json.text? j).isSome

/-- Whether members that can be read name an audience. -/
def membersNameAudience? (ms : List (String × Option Json)) : Option Bool := do
  let _ ← registeredNames.mapM (Json.atMostOnce? ms)
  let audience ← Json.atMostOnce? ms "aud"
  return audience.join.any isAudience

/-- A single value, or a container of nothing. -/
def isFlat : Json → Bool
  | .array xs => xs.isEmpty
  | .object ms => ms.isEmpty
  | _ => true

/-- The key of a claim that this service does not use. -/
def isForeign (key : Json.Literal) : Bool := ["iss", "aud", "nbf"].any fun name => key = .text name

/-- Whether a payload names an audience, provided its registered claims can be read. The other
claims have been read already, so that only foreign ones can be in the way. In an array the
registered claims have places of their own, and a time is looked for in the second. -/
def namesAudience? (bs : List UInt8) : Json → Option Bool
  | .array xs => if (xs.drop 1).head?.all isFlat then some false else none
  | .object ms =>
    if ms.any fun m => isForeign m.1 then
      (readMembers? bs.length ((Json.Token.skipSpace bs).drop 1)).bind membersNameAudience?
    else some false
  | _ => none

/-- The expiry of claims as a registered claim. An array has another place for it. -/
def registeredExpiry? (claims : Claims) : Json → Option Nat
  | .object _ => claims.expiresAt.seconds.toNat?
  | _ => none

end OrgAccess.Token
