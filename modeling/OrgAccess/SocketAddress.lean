import OrgAccess.Text.Decimal
import OrgAccess.Text.Quoted

/-! Socket addresses: an IPv4 or IPv6 address and a port. Numbers of an IPv4 address are written
without leading zeros; an IPv6 address stands in brackets, may leave out one run of zero groups
and may end as an IPv4 address does. The written form leaves out the first longest run. -/

namespace OrgAccess

/-- An IPv6 address has eight groups, and a scope, which is zero unless given. -/
inductive SocketAddress where
  | v4 (octets : List Nat) (port : Nat)
  | v6 (groups : List Nat) (scope : Nat) (port : Nat)
  deriving DecidableEq

namespace SocketAddress

def hexDigit? (c : Char) : Option Nat :=
  if '0' ≤ c ∧ c ≤ '9' then some (c.toNat - '0'.toNat)
  else if 'a' ≤ c ∧ c ≤ 'f' then some (c.toNat - 'a'.toNat + 10)
  else if 'A' ≤ c ∧ c ≤ 'F' then some (c.toNat - 'A'.toNat + 10)
  else none

/-- The digits at the front, and what follows them. -/
def takeDigits (digit? : Char → Option Nat) : List Char → List Nat × List Char
  | [] => ([], [])
  | c :: cs =>
    match digit? c with
    | none => ([], c :: cs)
    | some d => (d :: (takeDigits digit? cs).1, (takeDigits digit? cs).2)

def valueOf (base : Nat) (ds : List Nat) : Nat := ds.foldl (fun n d => base * n + d) 0

def takeChar (c : Char) : List Char → Option (List Char)
  | d :: cs => if d = c then some cs else none
  | [] => none

/-- An octet: up to three decimal digits without a leading zero. -/
def takeOctet (cs : List Char) : Option (Nat × List Char) :=
  match takeDigits Decimal.digit? cs with
  | ([], _) => none
  | (0 :: _ :: _, _) => none
  | (ds, rest) =>
    if ds.length ≤ 3 ∧ valueOf 10 ds < 256 then some (valueOf 10 ds, rest) else none

/-- A group: up to four hexadecimal digits. -/
def takeGroup (cs : List Char) : Option (Nat × List Char) :=
  match takeDigits hexDigit? cs with
  | ([], _) => none
  | (ds, rest) => if ds.length ≤ 4 then some (valueOf 16 ds, rest) else none

/-- A decimal number below a limit. -/
def takeBelow (limit : Nat) (cs : List Char) : Option (Nat × List Char) :=
  match takeDigits Decimal.digit? cs with
  | ([], _) => none
  | (ds, rest) => if valueOf 10 ds < limit then some (valueOf 10 ds, rest) else none

/-- Four octets, parted by points. -/
def takeV4 (cs : List Char) : Option (List Nat × List Char) := do
  let (a, cs) ← takeOctet cs
  let (b, cs) ← takeOctet (← takeChar '.' cs)
  let (c, cs) ← takeOctet (← takeChar '.' cs)
  let (d, cs) ← takeOctet (← takeChar '.' cs)
  return ([a, b, c, d], cs)

/-- What follows the colon that a later group begins with. -/
def afterColon (first : Bool) (cs : List Char) : Option (List Char) :=
  if first then some cs else takeChar ':' cs

/-- Groups that have been read, whether the last two were written as an IPv4 address, and what
follows. -/
structure Groups where
  values : List Nat
  endsAsV4 : Bool
  rest : List Char

/-- As many groups as there are, but no more than there is room for. An IPv4 address takes the
room of two. -/
def takeGroups : Nat → Bool → List Char → Groups
  | 0, _, cs => ⟨[], false, cs⟩
  | room + 1, first, cs =>
    match if 0 < room then (afterColon first cs).bind takeV4 else none with
    | some ([a, b, c, d], rest) => ⟨[256 * a + b, 256 * c + d], true, rest⟩
    | _ =>
      match (afterColon first cs).bind takeGroup with
      | none => ⟨[], false, cs⟩
      | some (g, rest) =>
        let more := takeGroups room false rest
        { more with values := g :: more.values }

/-- Eight groups, of which two colons stand for at least one that is zero. -/
def takeV6 (cs : List Char) : Option (List Nat × List Char) :=
  let head := takeGroups 8 true cs
  if head.values.length = 8 then some (head.values, head.rest)
  else if head.endsAsV4 then none
  else do
    let cs ← takeChar ':' (← takeChar ':' head.rest)
    let tail := takeGroups (7 - head.values.length) true cs
    let missing := 8 - head.values.length - tail.values.length
    return (head.values ++ List.replicate missing 0 ++ tail.values, tail.rest)

/-- A colon, a port and nothing more. -/
def readPort (cs : List Char) : Option Nat := do
  let (port, rest) ← takeBelow 65536 (← takeChar ':' cs)
  if rest = [] then some port else none

/-- A scope after a percent sign, if there is one. -/
def takeScope (cs : List Char) : Option (Nat × List Char) :=
  match takeChar '%' cs with
  | none => some (0, cs)
  | some cs => takeBelow 4294967296 cs

def readV6 (cs : List Char) : Option SocketAddress := do
  let (groups, cs) ← takeV6 (← takeChar '[' cs)
  let (scope, cs) ← takeScope cs
  return .v6 groups scope (← readPort (← takeChar ']' cs))

def readV4 (cs : List Char) : Option SocketAddress := do
  let (octets, cs) ← takeV4 cs
  return .v4 octets (← readPort cs)

def parse? (s : String) : Option SocketAddress := (readV4 s.toList).or (readV6 s.toList)

def port : SocketAddress → Nat
  | .v4 _ port => port
  | .v6 _ _ port => port

def isV6 : SocketAddress → Bool
  | .v4 _ _ => false
  | .v6 _ _ _ => true

def decimal (n : Nat) : String := String.ofList (Decimal.natDigits n)

def octetsText (octets : List Nat) : String := ".".intercalate (octets.map decimal)

def groupsText (groups : List Nat) : String :=
  ":".intercalate (groups.map fun g => String.ofList (Text.hexDigits g))

/-- The length of the run of zeros at a place. -/
def zeroRun (groups : List Nat) (i : Nat) : Nat := ((groups.drop i).takeWhile (· = 0)).length

/-- The place of the first longest run of zeros. -/
def longestRun (groups : List Nat) : Nat :=
  (List.range groups.length).foldl
    (fun best i => if zeroRun groups best < zeroRun groups i then i else best) 0

def v6Text (groups : List Nat) : String :=
  match groups with
  | [0, 0, 0, 0, 0, 0xffff, g, h] =>
    "::ffff:" ++ octetsText [g / 256, g % 256, h / 256, h % 256]
  | _ =>
    let start := longestRun groups
    let length := zeroRun groups start
    if 1 < length then
      groupsText (groups.take start) ++ "::" ++ groupsText (groups.drop (start + length))
    else groupsText groups

def text : SocketAddress → String
  | .v4 octets port => octetsText octets ++ ":" ++ decimal port
  | .v6 groups scope port =>
    let scope := if scope = 0 then "" else "%" ++ decimal scope
    "[" ++ v6Text groups ++ scope ++ "]:" ++ decimal port

end SocketAddress

end OrgAccess
