import OrgAccess.Resolver
import OrgAccess.Text.Blank
import OrgAccess.Text.Decimal

/-! Settings of the service, looked up by the names of variables. A database is never used with
the secret that stands in for a missing one. Settings are read in a fixed order and the first
fault is reported. -/

namespace OrgAccess

structure Settings (Address : Type) where
  secret : String
  databaseUrl : Option String
  bindAddress : Address
  maxConnections : Nat
  deriving DecidableEq

namespace Settings

def databaseUrlName : String := "DATABASE_URL"

def secretName : String := "JWT_SECRET"

def bindAddressName : String := "BIND_ADDR"

def maxConnectionsName : String := "DATABASE_MAX_CONNECTIONS"

/-- The secret where none is set and no database is used. -/
def standInSecret : String := "dev-secret"

def defaultBindAddress : String := "0.0.0.0:8080"

def defaultMaxConnections : Nat := 5

/-- The greatest number of connections that can be set. -/
def greatestMaxConnections : Nat := 4294967295

/-- Why settings cannot be loaded: the variable, and its value where it is of no use. -/
inductive Fault where
  | blank (name : String)
  | missing (name : String)
  | badAddress (name value : String)
  | badNumber (name value : String)
  deriving DecidableEq

def Fault.message : Fault → String
  | .blank name => name ++ " is set but blank"
  | .missing name => name ++ " must be set when " ++ databaseUrlName ++ " is set"
  | .badAddress name value => name ++ " is not a valid socket address: " ++ value
  | .badNumber name value => name ++ " must be a positive integer, got '" ++ value ++ "'"

def loadDatabaseUrl (lookup : String → Option String) : Except Fault (Option String) :=
  match lookup databaseUrlName with
  | none => .ok none
  | some url => if Text.trim url = "" then .error (.blank databaseUrlName) else .ok (some url)

def loadSecret (lookup : String → Option String) (databaseUrl : Option String) :
    Except Fault String :=
  match (lookup secretName).filter (Text.trim · ≠ "") with
  | some secret => .ok secret
  | none => if databaseUrl.isSome then .error (.missing secretName) else .ok standInSecret

def loadAddress {Address : Type} (readAddress : String → Option Address)
    (lookup : String → Option String) : Except Fault Address :=
  let value := (lookup bindAddressName).getD defaultBindAddress
  match readAddress (Text.trim value) with
  | some address => .ok address
  | none => .error (.badAddress bindAddressName value)

def loadMaxConnections (lookup : String → Option String) : Except Fault Nat :=
  match lookup maxConnectionsName with
  | none => .ok defaultMaxConnections
  | some value =>
    match Decimal.readNat greatestMaxConnections (Text.trimBlanks value.toList) with
    | .ok (n + 1) => .ok (n + 1)
    | _ => .error (.badNumber maxConnectionsName value)

/-- Load the settings, where addresses are read as given. -/
def load {Address : Type} (readAddress : String → Option Address)
    (lookup : String → Option String) : Except Fault (Settings Address) := do
  let databaseUrl ← loadDatabaseUrl lookup
  let secret ← loadSecret lookup databaseUrl
  let bindAddress ← loadAddress readAddress lookup
  let maxConnections ← loadMaxConnections lookup
  return ⟨secret, databaseUrl, bindAddress, maxConnections⟩

def isSchemeChar (c : Char) : Bool := c.isAlphanum || "+-.".toList.contains c

/-- The characters of a URL. Controls and spaces before it do not count, nor do tabs and line
ends. -/
def urlChars (s : String) : List Char :=
  (s.toList.dropWhile (· ≤ ' ')).filter fun c => ! "\t\n\r".toList.contains c

/-- The URL begins with the name of a scheme and a colon. -/
def hasScheme (s : String) : Bool :=
  (urlChars s).head?.any Char.isAlpha && ((urlChars s).dropWhile isSchemeChar).head? = some ':'

/-- The source that a service with the settings starts on: empty tables in memory, unless a
database is named. There is nothing to connect to at a URL without a scheme. -/
def source {Address : Type} (connect : String → Nat → Except SourceFault Source)
    (settings : Settings Address) : Except SourceFault Source :=
  match settings.databaseUrl with
  | none => .ok (.inMemory .empty .seed)
  | some url =>
    if hasScheme url then connect url settings.maxConnections else .error .relativeUrl

end Settings

end OrgAccess
