import OrgAccess.Json.Value

/-! Records in JSON. A record is written as an object with its fields, and read from an object in
which every field occurs at most once, in any order and among others that are passed over, or
from an array of all its fields. -/

namespace OrgAccess.Json

def ofText (s : String) : Json := .string (.text s)

def ofInt (n : Int) : Json := .number (.ofInt n)

def ofOption {α : Type} (write : α → Json) : Option α → Json
  | none => .null
  | some a => write a

def ofList {α : Type} (write : α → Json) (as : List α) : Json := .array (as.map write)

/-- An object with the given fields. -/
def ofFields (fields : List (String × Json)) : Json :=
  .object (fields.map fun field => (.text field.1, field.2))

def text? : Json → Option String
  | .string (.text s) => some s
  | _ => none

def int? : Json → Option Int
  | .number n => n.toInt?
  | _ => none

def list? {α : Type} (read : Json → Option α) : Json → Option (List α)
  | .array xs => xs.mapM read
  | _ => none

/-- The members of an object, provided every key is a text. -/
def members? : Json → Option (List (String × Json))
  | .object ms => ms.mapM fun m =>
    match m.1 with
    | .text key => some (key, m.2)
    | _ => none
  | _ => none

/-- What stands under a key that may occur once at most. -/
def atMostOnce? {α : Type} (ms : List (String × α)) (key : String) : Option (Option α) :=
  match ms.filter (fun m => m.1 = key) with
  | [] => some none
  | [m] => some (some m.2)
  | _ => none

/-- The fields of a record, where they are given. -/
def fields? (names : List String) : Json → Option (List (Option Json))
  | .array xs => if xs.length = names.length then some (xs.map some) else none
  | j => (members? j).bind fun ms => names.mapM (atMostOnce? ms)

/-- A field that has to be there. -/
def required {α : Type} (read : Json → Option α) (field : Option Json) : Option α :=
  field.bind read

/-- A field that may be absent or null. -/
def optional {α : Type} (read : Json → Option α) : Option Json → Option (Option α)
  | none => some none
  | some .null => some none
  | some j => (read j).map some

/-- A code out of a list: a text, or an object that holds null under the code. -/
def code? : Json → Option String
  | .string (.text s) => some s
  | .object [(.text s, .null)] => some s
  | _ => none

mutual

/-- How deep the containers of a value are nested. -/
def depth : Json → Nat
  | .array xs => depthOfElements xs + 1
  | .object ms => depthOfMembers ms + 1
  | _ => 0

def depthOfElements : List Json → Nat
  | [] => 0
  | x :: xs => max (depth x) (depthOfElements xs)

def depthOfMembers : List (Literal × Json) → Nat
  | [] => 0
  | (_, x) :: ms => max (depth x) (depthOfMembers ms)

end

mutual

/-- Every literal is a text and every number a finite double. -/
def isPlain : Json → Bool
  | .number n => n.fitsDouble
  | .string l => l.isText
  | .array xs => elementsPlain xs
  | .object ms => membersPlain ms
  | _ => true

def elementsPlain : List Json → Bool
  | [] => true
  | x :: xs => isPlain x && elementsPlain xs

def membersPlain : List (Literal × Json) → Bool
  | [] => true
  | (l, x) :: ms => l.isText && isPlain x && membersPlain ms

end

/-- A value that can be kept before it is known what it is for: plain, and less than 128 deep
together with the containers around it. -/
def keepable (around : Nat) (j : Json) : Bool := j.isPlain && around + j.depth < 128

end OrgAccess.Json
