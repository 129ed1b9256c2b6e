import OrgAccess.Hash.Hmac
import OrgAccess.Json.Identity
import OrgAccess.Text.Base64Url
import OrgAccess.Token.Header
import OrgAccess.Token.Registered

/-! Bearer tokens: a header, claims and a signature over both, each in base64 and parted by dots.
A token is made and checked with one secret. A token may be held against a clock as it is decoded.
This service does not ask for that, and holds the claims against the moment of the request. -/

namespace OrgAccess.Token

/-- Why a text cannot be decoded as a token signed with the secret. -/
inductive Malformed where
  | notThreeParts
  | base64
  | json
  | algorithm
  | signature
  | missingExpiry
  | expired
  | audience
  deriving DecidableEq

def Malformed.label : Malformed → String
  | .notThreeParts => "InvalidToken"
  | .base64 => "Base64 error"
  | .json => "JSON error"
  | .algorithm => "InvalidAlgorithm"
  | .signature => "InvalidSignature"
  | .missingExpiry => "Missing required claim: exp"
  | .expired => "ExpiredSignature"
  | .audience => "InvalidAudience"

/-- Why a token is refused. -/
inductive Fault where
  | malformed (reason : Malformed)
  | window (fault : WindowFault)
  deriving DecidableEq

/-- The text before and after the last dot. -/
def splitLast? (cs : List Char) : Option (List Char × List Char) :=
  match cs.reverse.dropWhile (· ≠ '.') with
  | [] => none
  | _ :: before => some (before.reverse, (cs.reverse.takeWhile (· ≠ '.')).reverse)

/-- The parts of a token. Dots beyond the last two belong to the header. -/
structure Parts where
  header : List Char
  payload : List Char
  signature : List Char

def Parts.ofChars? (cs : List Char) : Option Parts := do
  let (message, signature) ← splitLast? cs
  let (header, payload) ← splitLast? message
  return ⟨header, payload, signature⟩

/-- What is signed. -/
def Parts.message (p : Parts) : List Char := p.header ++ '.' :: p.payload

/-- The signature of a message under a secret, as it is written. -/
def signatureOf (secret : List UInt8) (message : List Char) : List Char :=
  Base64Url.encode (Hmac.sign secret (Text.toUtf8 (String.ofList message)))

def orElse {α ε : Type} (fault : ε) : Option α → Except ε α
  | some a => .ok a
  | none => .error fault

def readAlgorithm (p : Parts) : Except Malformed Algorithm := do
  let bytes ← orElse .base64 (Base64Url.decode? p.header)
  orElse .json ((Json.parse? bytes).bind Header.algorithm?)

/-- What is read from a payload: the claims, the expiry as a registered claim, and whether an
audience is named. -/
structure Payload where
  claims : Claims
  expiry : Option Nat
  namesAudience : Bool

def payload? (bytes : List UInt8) : Option Payload := do
  let j ← Json.parse? bytes
  let claims ← Claims.ofJson? j
  let named ← namesAudience? bytes j
  return ⟨claims, registeredExpiry? claims j, named⟩

/-- What is asked of the expiry when a token is decoded. The leeway is in seconds. -/
structure Checks where
  requiresExpiry : Bool := true
  comparesExpiry : Bool := true
  leeway : Nat := 60

/-- The checks of this service. -/
def Checks.ofService : Checks := { requiresExpiry := false, comparesExpiry := false }

/-- Check a payload at the seconds that a clock shows. A service that expects no audience takes no
token for one. -/
def Checks.check (checks : Checks) (clock : Nat) (p : Payload) : Except Malformed Unit :=
  if checks.requiresExpiry ∧ p.expiry = none then .error .missingExpiry
  else if checks.comparesExpiry ∧ p.expiry.any (· + checks.leeway < clock) then .error .expired
  else if p.namesAudience then .error .audience
  else .ok ()

def readClaims (checks : Checks) (clock : Nat) (p : Parts) : Except Malformed Claims := do
  let bytes ← orElse .base64 (Base64Url.decode? p.payload)
  let payload ← orElse .json (payload? bytes)
  checks.check clock payload
  return payload.claims

/-- The claims of a token, if it is signed with the secret and passes the checks. -/
def decode (checks : Checks) (secret : List UInt8) (token : String) (clock : Nat) :
    Except Malformed Claims := do
  let parts ← orElse .notThreeParts (Parts.ofChars? token.toList)
  let algorithm ← readAlgorithm parts
  if algorithm ≠ .hs256 then .error .algorithm
  else if parts.signature ≠ signatureOf secret parts.message then .error .signature
  else readClaims checks clock parts

/-- The claims of a token that is signed with the secret and holds now. The clock of the system is
there for the decoding. -/
def validate (secret : List UInt8) (token : String) (clock : Nat) (now : Instant) :
    Except Fault Claims :=
  match decode .ofService secret token clock with
  | .error reason => .error (.malformed reason)
  | .ok claims =>
    match claims.checkAt now with
    | .error fault => .error (.window fault)
    | .ok () => .ok claims

/-- A token for claims, signed with the secret. -/
def mint (secret : List UInt8) (claims : Claims) : String :=
  let message := Base64Url.encode Header.json.bytes ++ '.' :: Base64Url.encode claims.toJson.bytes
  String.ofList (message ++ '.' :: signatureOf secret message)

end OrgAccess.Token
