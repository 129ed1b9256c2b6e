/-! URIs. Of a URI only the path and the query are kept. A scheme and an authority have to be well
formed where they are given, and a fragment is passed over. -/

namespace OrgAccess.Web

/-- The text before the first of a character, and after it if it occurs. -/
def splitFirst (c : Char) (cs : List Char) : List Char × Option (List Char) :=
  match cs.dropWhile (· ≠ c) with
  | [] => (cs, none)
  | _ :: rest => (cs.takeWhile (· ≠ c), some rest)

/-- The part of a URI that requests are answered by. -/
structure Uri where
  path : String
  query : Option String
  deriving DecidableEq

namespace Uri

/-- Neither a control nor a space. Beyond ASCII everything counts as visible. -/
def isVisible (c : Char) : Bool := 0x20 < c.toNat && c.toNat ≠ 0x7f

/-- What a path may hold as it stands. -/
def isPathChar (c : Char) : Bool := isVisible c && ! "#<>?\x60".toList.contains c

/-- What a query may hold as it stands. -/
def isQueryChar (c : Char) : Bool := isVisible c && ! "\"#<>".toList.contains c

/-- A path, which is a slash when nothing is given, and perhaps a query. -/
def ofPathAndQuery? (cs : List Char) : Option Uri :=
  let (path, query) := splitFirst '?' (splitFirst '#' cs).1
  if path.all isPathChar ∧ (query.getD []).all isQueryChar then
    some ⟨if path = [] then "/" else String.ofList path, query.map String.ofList⟩
  else none

def isSchemeChar (c : Char) : Bool := c.isAlphanum || "+-.~".toList.contains c

/-- The longest scheme. -/
def longestScheme : Nat := 64

/-- What follows a scheme and its two slashes, if the text begins with them. -/
def afterScheme? (cs : List Char) : Option (List Char) :=
  match cs.dropWhile isSchemeChar with
  | ':' :: '/' :: '/' :: rest => some rest
  | _ => none

def schemeFits (cs : List Char) : Bool := (cs.takeWhile isSchemeChar).length ≤ longestScheme

/-- What an authority may hold as it stands. -/
def isAuthorityChar (c : Char) : Bool := c.isAlphanum || "!$&'()*+,-.:;=@[]_~".toList.contains c

def endsAuthority (c : Char) : Bool := c = '/' ∨ c = '?' ∨ c = '#'

/-- What has been seen of an authority since it began, or since its user or its bracketed address
ended: colons and a percent sign. And whether a bracket has been opened and closed in all. -/
structure Seen where
  colons : Nat := 0
  percent : Bool := false
  opened : Bool := false
  closed : Bool := false

/-- One more character of an authority. -/
def Seen.next? (seen : Seen) (c : Char) : Option Seen :=
  if c = '%' then some { seen with percent := true }
  else if ¬ isAuthorityChar c then none
  else if c = ':' then
    if seen.colons < 8 then some { seen with colons := seen.colons + 1 } else none
  else if c = '@' then some { seen with colons := 0, percent := false }
  else if c = '[' then
    if seen.percent ∨ seen.opened then none else some { seen with opened := true }
  else if c = ']' then
    if seen.opened ∧ ¬ seen.closed then
      some { seen with colons := 0, percent := false, closed := true }
    else none
  else some seen

/-- A host with perhaps a user before it and a port after it. Only the user, and an address in
brackets, may hold more than one colon or a percent sign. -/
def isAuthority (cs : List Char) : Bool :=
  match cs.foldlM Seen.next? {} with
  | none => false
  | some seen =>
    cs ≠ [] && seen.opened = seen.closed && seen.colons ≤ 1 && ! seen.percent &&
      cs.getLast? ≠ some '@'

/-- The longest URI, in bytes. -/
def longest : Nat := 65534

/-- Read a URI: a path, an absolute URI, or an authority alone. -/
def parse? (s : String) : Option Uri :=
  let cs := s.toList
  if longest < s.utf8ByteSize then none
  else
    match cs with
    | '/' :: _ => ofPathAndQuery? cs
    | ['*'] => some ⟨"*", none⟩
    | _ =>
      match afterScheme? cs with
      | some rest =>
        if schemeFits cs && isAuthority (rest.takeWhile fun c => ¬ endsAuthority c) then
          ofPathAndQuery? (rest.dropWhile fun c => ¬ endsAuthority c)
        else none
      | none => if isAuthority cs then some ⟨"", none⟩ else none

end Uri

end OrgAccess.Web
