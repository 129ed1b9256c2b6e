import OrgAccess.Fault
import OrgAccess.Guid
import OrgAccess.Text.Blank

/-! Claims are what a bearer token says about its holder, and the principal is who they make the
holder to be. A token holds from the second it is issued until just before the second it
expires. -/

namespace OrgAccess

/-- A whole second, counted from 1970, between the years -262143 and 262142. -/
@[ext]
structure Timestamp where
  seconds : Int
  inRange : -8334601228800 ≤ seconds ∧ seconds ≤ 8210266876799
  deriving DecidableEq

def Timestamp.ofInt? (n : Int) : Option Timestamp :=
  if h : -8334601228800 ≤ n ∧ n ≤ 8210266876799 then some ⟨n, h⟩ else none

/-- A moment: a second and the nanoseconds since it began. Leap seconds are left out: no moment has
a billion nanoseconds or more. -/
structure Instant where
  second : Timestamp
  nanoseconds : Fin 1000000000
  deriving DecidableEq

/-- What a clock shows that counts the seconds since 1970 and shows zero before. -/
def Instant.clock (now : Instant) : Nat := now.second.seconds.toNat

/-- The moment comes before the second begins. -/
def Instant.before (now : Instant) (t : Timestamp) : Bool := now.second.seconds < t.seconds

structure Claims where
  subject : Guid
  roles : List String
  productCode : Option String
  issuedAt : Timestamp
  expiresAt : Timestamp
  deriving DecidableEq

/-- Why claims do not hold at a moment. -/
inductive WindowFault where
  | expired
  | notYetValid
  | emptyWindow
  deriving DecidableEq

def WindowFault.message : WindowFault → String
  | .expired => "token has expired"
  | .notYetValid => "token not yet valid (issued_at is in the future)"
  | .emptyWindow => "invalid token time window (expires_at <= issued_at)"

namespace Claims

/-- Two texts that differ at most in the case of ASCII letters. -/
def sameButForCase (a b : String) : Bool :=
  a.toList.map Char.toLower = b.toList.map Char.toLower

def hasRole (claims : Claims) (role : String) : Bool :=
  claims.roles.any fun r => sameButForCase r role

/-- A window that holds no moment is refused at every moment. -/
def checkAt (claims : Claims) (now : Instant) : Except WindowFault Unit :=
  if claims.expiresAt.seconds ≤ claims.issuedAt.seconds then .error .emptyWindow
  else if now.before claims.issuedAt then .error .notYetValid
  else if now.before claims.expiresAt then .ok ()
  else .error .expired

end Claims

/-- Who is asking. -/
inductive Principal where
  | user (guid : Guid)
  | staff (guid : Guid)
  | serviceAccount (guid : Guid) (productCode : String)
  deriving DecidableEq

namespace Principal

def guid : Principal → Guid
  | .user guid => guid
  | .staff guid => guid
  | .serviceAccount guid _ => guid

def kind : Principal → String
  | .user _ => "user"
  | .staff _ => "staff"
  | .serviceAccount _ _ => "service_account"

def staffRole : String := "staff"

def systemRole : String := "system"

/-- A system token acts for the product it names, and for nobody if it names none. Otherwise a
staff token makes its holder staff. -/
def ofClaims (claims : Claims) : Except DomainFault Principal :=
  if claims.hasRole systemRole then
    match claims.productCode.bind Text.nonBlank? with
    | some product => .ok (.serviceAccount claims.subject product)
    | none => .error .unauthorized
  else if claims.hasRole staffRole then .ok (.staff claims.subject)
  else .ok (.user claims.subject)

end Principal

/-- What authorization is asked for. -/
inductive Target where
  | org (id : OrgId)
  | business (identifier : String)
  deriving DecidableEq

end OrgAccess
