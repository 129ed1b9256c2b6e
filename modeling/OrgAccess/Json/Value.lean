import OrgAccess.Json.Token

/-! JSON values. They are read from tokens by a machine that holds the containers not closed yet,
so that no depth of nesting is too great, and written as the tokens they consist of. -/

namespace OrgAccess

inductive Json where
  | null
  | bool (b : Bool)
  | number (n : Json.Numeral)
  | string (l : Json.Literal)
  | array (xs : List Json)
  | object (members : List (Json.Literal × Json))

namespace Json

/-- A container that is not closed yet, with its contents so far, latest first. In an object
the key of the next value has been read. -/
inductive Frame where
  | array (done : List Json)
  | object (done : List (Literal × Json)) (key : Literal)

/-- What has been read, and so what may come next. -/
inductive State where
  | value (stack : List Frame)
  | firstElement (stack : List Frame)
  | firstKey (stack : List Frame)
  | nextKey (done : List (Literal × Json)) (stack : List Frame)
  | colon (done : List (Literal × Json)) (key : Literal) (stack : List Frame)
  | after (v : Json) (stack : List Frame)

namespace State

/-- Begin a value. -/
def beginValue (stack : List Frame) : Token → Option State
  | .null => some (.after .null stack)
  | .bool b => some (.after (.bool b) stack)
  | .number n => some (.after (.number n) stack)
  | .string l => some (.after (.string l) stack)
  | .openArray => some (.firstElement stack)
  | .openObject => some (.firstKey stack)
  | _ => none

/-- Go on after a value. -/
def afterValue (v : Json) : List Frame → Token → Option State
  | .array done :: stack, .comma => some (.value (.array (v :: done) :: stack))
  | .array done :: stack, .closeArray => some (.after (.array (v :: done).reverse) stack)
  | .object done key :: stack, .comma => some (.nextKey ((key, v) :: done) stack)
  | .object done key :: stack, .closeObject =>
    some (.after (.object ((key, v) :: done).reverse) stack)
  | _, _ => none

def step : State → Token → Option State
  | .value stack, t => beginValue stack t
  | .firstElement stack, .closeArray => some (.after (.array []) stack)
  | .firstElement stack, t => beginValue (.array [] :: stack) t
  | .firstKey stack, .closeObject => some (.after (.object []) stack)
  | .firstKey stack, .string key => some (.colon [] key stack)
  | .nextKey done stack, .string key => some (.colon done key stack)
  | .colon done key stack, .colon => some (.value (.object done key :: stack))
  | .after v stack, t => afterValue v stack t
  | _, _ => none

/-- The value, when it is complete and nothing is left open. -/
def result? : State → Option Json
  | .after v [] => some v
  | _ => none

end State

/-- The value that the tokens spell. -/
def ofTokens? (ts : List Token) : Option Json :=
  (ts.foldlM State.step (.value [])).bind State.result?

/-- The value that the bytes spell, with nothing but space around it. -/
def parse? (bs : List UInt8) : Option Json := (Token.scan bs).bind ofTokens?

mutual

/-- The tokens of a value. -/
def tokens : Json → List Token
  | .null => [.null]
  | .bool b => [.bool b]
  | .number n => [.number n]
  | .string l => [.string l]
  | .array xs => .openArray :: elementTokens xs ++ [.closeArray]
  | .object ms => .openObject :: memberTokens ms ++ [.closeObject]

def elementTokens : List Json → List Token
  | [] => []
  | [x] => tokens x
  | x :: xs => tokens x ++ .comma :: elementTokens xs

def memberTokens : List (Literal × Json) → List Token
  | [] => []
  | [(key, x)] => .string key :: .colon :: tokens x
  | (key, x) :: ms => .string key :: .colon :: tokens x ++ .comma :: memberTokens ms

end

/-- The written form, without any space. -/
def bytes (j : Json) : List UInt8 := j.tokens.flatMap Token.bytes

/-- The value that a text spells. -/
def parseText? (s : String) : Option Json := parse? (Text.toUtf8 s)

end Json

end OrgAccess
