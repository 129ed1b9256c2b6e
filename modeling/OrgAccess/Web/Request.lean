import OrgAccess.Text.Utf8
import OrgAccess.Web.Uri

/-! Web requests: a method, the path and query of a URI, and header fields, of which the first of
a name counts. -/

namespace OrgAccess.Web

/-- A character of a method or of the name of a header field. -/
def isTokenChar (c : Char) : Bool :=
  c.isAlphanum || "!#$%&'*+-.^_\x60|~".toList.contains c

def isToken (s : String) : Bool := s ≠ "" ∧ s.toList.all isTokenChar

structure HeaderField where
  name : String
  value : List UInt8
  deriving DecidableEq

namespace HeaderField

/-- A byte that a value may hold. -/
def isValueByte (b : UInt8) : Bool := (32 ≤ b ∧ b ≠ 127) ∨ b = 9

def isLegal (field : HeaderField) : Bool := isToken field.name && field.value.all isValueByte

/-- A byte that can be read as a character: visible ASCII, a space or a tab. -/
def isReadableByte (b : UInt8) : Bool := (32 ≤ b ∧ b < 127) ∨ b = 9

/-- The value as a text. -/
def text? (field : HeaderField) : Option String :=
  if field.value.all isReadableByte then Text.ofUtf8? field.value else none

end HeaderField

structure Request where
  method : String
  uri : Uri
  headers : List HeaderField
  deriving DecidableEq

/-- The first value of a header field, if it can be read. Names ignore case. -/
def Request.header? (r : Request) (name : String) : Option String :=
  (r.headers.find? fun field => field.name.toList.map Char.toLower = name.toList).bind (·.text?)

/-- Put a request together from its parts, if each of them is well formed. -/
def Request.ofParts? (method uri : String) (headers : List HeaderField) : Option Request :=
  if isToken method && headers.all (·.isLegal) then
    (Uri.parse? uri).map fun uri => ⟨method, uri, headers⟩
  else none

end OrgAccess.Web
