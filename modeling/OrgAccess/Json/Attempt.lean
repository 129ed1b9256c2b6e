import OrgAccess.Json.Halt
import OrgAccess.Json.Value

/-! Attempts to read one value out of many. The reader is the machine for whole values, but it
takes a token only if it is admitted. An attempt that gets stuck still closes the containers that
it has opened, so that a reader who does without the value may find the next one. -/

namespace OrgAccess.Json

/-- What a container is closed by. -/
inductive Bracket where
  | square
  | curly
  deriving DecidableEq

namespace Bracket

/-- What is left after a container is closed, if it can be closed here. A comma before a square
bracket is taken, and the container is left open. -/
def close (bracket : Bracket) (bs : List UInt8) : List UInt8 :=
  match bracket, Token.skipSpace bs with
  | _, [] => []
  | .square, b :: rest =>
    if b = ']'.toUInt8 then rest else if b = ','.toUInt8 then Token.skipSpace rest else b :: rest
  | .curly, b :: rest => if b = '\x7d'.toUInt8 then rest else b :: rest

end Bracket

def Frame.bracket : Frame → Bracket
  | .array _ => .square
  | .object _ _ => .curly

namespace State

/-- What the open containers are closed by, innermost first. -/
def brackets : State → List Bracket
  | .value stack => stack.map Frame.bracket
  | .firstElement stack => .square :: stack.map Frame.bracket
  | .firstKey stack => .curly :: stack.map Frame.bracket
  | .nextKey _ stack => .curly :: stack.map Frame.bracket
  | .colon _ _ stack => .curly :: stack.map Frame.bracket
  | .after _ stack => stack.map Frame.bracket

/-- What is left after the token that the state cannot take. It is looked into where a value may
begin, and where a key does. -/
def halt (st : State) (bs : List UInt8) : List UInt8 :=
  match st with
  | .value _ => Token.halt bs
  | .firstElement _ => Token.halt bs
  | .firstKey _ => if bs.head? = some '"'.toUInt8 then Token.halt bs else bs
  | .nextKey _ _ => if bs.head? = some '"'.toUInt8 then Token.halt bs else bs
  | _ => bs

end State

/-- What came of an attempt: the value and what follows it, or the last state and what it could
not take. -/
inductive Attempt where
  | complete (v : Json) (rest : List UInt8)
  | stuck (st : State) (rest : List UInt8)

namespace Attempt

/-- Go on from a state. -/
def run (admits : State → Token → Bool) (st : State) (bs : List UInt8) : Attempt :=
  match st.result? with
  | some v => .complete v bs
  | none =>
    match h : Token.next? (Token.skipSpace bs) with
    | none => .stuck st (Token.skipSpace bs)
    | some (t, rest) =>
      have : rest.length < bs.length :=
        Nat.lt_of_lt_of_le (Token.length_next h) (Token.length_skipSpace bs)
      match if admits st t then st.step t else none with
      | none => .stuck st (Token.skipSpace bs)
      | some next => run admits next rest
termination_by bs.length

/-- Read a value that is not needed. -/
def pass (bs : List UInt8) : Attempt := run (fun _ _ => true) (.value []) bs

/-- Read a value that has to be kept: plain, and with its containers nested `room` deep at most. -/
def keep (room : Nat) (bs : List UInt8) : Attempt :=
  run (fun st t => t.isPlain && (!t.opens || st.brackets.length < room)) (.value []) bs

def value? : Attempt → Option Json
  | .complete v _ => some v
  | .stuck _ _ => none

/-- Where the next reader begins. -/
def rest : Attempt → List UInt8
  | .complete _ rest => rest
  | .stuck st bs => st.brackets.foldl (fun bs bracket => bracket.close bs) (st.halt bs)

end Attempt

end OrgAccess.Json
