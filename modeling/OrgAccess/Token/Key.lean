import OrgAccess.Token.Algorithm

/-! Keys in JSON. A header may hold the key that its token is signed with. The key is not used, but
it has to be one: an object with fields common to all keys, and with the fields of some kind of
key. Fields beyond those are passed over. -/

namespace OrgAccess.Token.Key

/-- Algorithms that keys are for beside those of signatures. -/
def encryptionNames : List String := ["RSA1_5", "RSA-OAEP", "RSA-OAEP-256"]

def isAlgorithmName (s : String) : Bool := s ∈ Algorithm.all.map Algorithm.name ++ encryptionNames

/-- The name of an algorithm: a text, or an object that holds nothing under the name. -/
def algorithm? (j : Json) : Option String := do
  let name ← match j with
    | .object [(.text s, .object [])] => some s
    | _ => j.code?
  if isAlgorithmName name then some name else none

def commonTextNames : List String := ["use", "kid", "x5u", "x5t", "x5t#S256"]

def commonListNames : List String := ["key_ops", "x5c"]

/-- The fields that any key may have are of their types. -/
def commonReadable (ms : List (String × Json)) : Bool :=
  let optionalField {α : Type} (read : Json → Option α) (name : String) : Bool :=
    ((Json.atMostOnce? ms name).bind (Json.optional read)).isSome
  commonTextNames.all (optionalField Json.text?) &&
    commonListNames.all (optionalField (Json.list? Json.text?)) &&
    optionalField algorithm? "alg"

/-- A kind of key: its name, whether it names a curve, and the texts that it holds. -/
structure Kind where
  name : String
  curved : Bool
  textNames : List String

def kinds : List Kind :=
  [⟨"EC", true, ["x", "y"]⟩, ⟨"RSA", false, ["n", "e"]⟩, ⟨"oct", false, ["k"]⟩,
    ⟨"OKP", true, ["x"]⟩]

def curveNames : List String := ["P-256", "P-384", "P-521", "Ed25519"]

/-- A code out of a list. -/
def oneOf? (names : List String) (j : Json) : Option String :=
  j.code?.bind fun s => if s ∈ names then some s else none

/-- The fields of the kind are there, each once. -/
def Kind.admits (kind : Kind) (ms : List (String × Json)) : Bool :=
  let requiredField {α : Type} (read : Json → Option α) (name : String) : Bool :=
    ((Json.atMostOnce? ms name).bind (Json.required read)).isSome
  requiredField (oneOf? [kind.name]) "kty" &&
    (!kind.curved || requiredField (oneOf? curveNames) "crv") &&
    kind.textNames.all (requiredField Json.text?)

/-- The value is a key. All of it is kept before its kind is known. -/
def isKey (j : Json) : Bool :=
  match j with
  | .object _ => j.keepable 1 &&
    (j.members?).any fun ms => commonReadable ms && kinds.any fun kind => kind.admits ms
  | _ => false

end OrgAccess.Token.Key
