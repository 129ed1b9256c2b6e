import OrgAccess.Json.Literal
import OrgAccess.Json.Numeral

/-! The tokens of JSON, and how bytes are split into them. Between tokens there may be spaces,
tabs and line ends. -/

namespace OrgAccess.Json

inductive Token where
  | openArray
  | closeArray
  | openObject
  | closeObject
  | comma
  | colon
  | null
  | bool (b : Bool)
  | number (n : Numeral)
  | string (l : Literal)
  deriving DecidableEq

namespace Token

def isSpace (b : UInt8) : Bool := b = 32 ∨ b = 9 ∨ b = 10 ∨ b = 13

def skipSpace (bs : List UInt8) : List UInt8 := bs.dropWhile isSpace

theorem length_skipSpace (bs : List UInt8) : (skipSpace bs).length ≤ bs.length :=
  (List.dropWhile_sublist isSpace).length_le

/-- A token with a text or a number that can be kept, or with neither. -/
def isPlain : Token → Bool
  | .number n => n.fitsDouble
  | .string l => l.isText
  | _ => true

def opens : Token → Bool
  | .openArray => true
  | .openObject => true
  | _ => false

/-- The bytes of an ASCII word. -/
def word (s : String) : List UInt8 := s.toList.map Char.toUInt8

/-- What follows a word, if the bytes begin with it. -/
def afterWord? (w : List UInt8) (bs : List UInt8) : Option (List UInt8) :=
  if bs.take w.length = w then some (bs.drop w.length) else none

/-- The token at the front, and what follows it. -/
def next? : List UInt8 → Option (Token × List UInt8)
  | [] => none
  | b :: bs =>
    match Char.ofUInt8 b with
    | '[' => some (.openArray, bs)
    | ']' => some (.closeArray, bs)
    | '\x7b' => some (.openObject, bs)
    | '\x7d' => some (.closeObject, bs)
    | ',' => some (.comma, bs)
    | ':' => some (.colon, bs)
    | '"' => (Literal.take bs).map fun (l, rest) => (.string l, rest)
    | 'n' => (afterWord? (word "ull") bs).map fun rest => (.null, rest)
    | 't' => (afterWord? (word "rue") bs).map fun rest => (.bool true, rest)
    | 'f' => (afterWord? (word "alse") bs).map fun rest => (.bool false, rest)
    | _ => (Numeral.take (b :: bs)).map fun (n, rest) => (.number n, rest)

private theorem length_afterWord {w bs rest : List UInt8} (h : afterWord? w bs = some rest) :
    rest.length ≤ bs.length := by
  unfold afterWord? at h
  split at h
  · cases h
    simp
  · simp at h

/-- A token takes up at least one byte. -/
theorem length_next {bs rest : List UInt8} {t : Token} (h : next? bs = some (t, rest)) :
    rest.length < bs.length := by
  cases bs with
  | nil => simp [next?] at h
  | cons b bs =>
    rw [next?] at h
    split at h
    · simp_all
    · simp_all
    · simp_all
    · simp_all
    · simp_all
    · simp_all
    · simp only [Option.map_eq_some_iff, Prod.exists, Prod.mk.injEq] at h
      obtain ⟨l, r, hr, _, rfl⟩ := h
      exact Nat.lt_succ_of_lt (Literal.length_take hr)
    · simp only [Option.map_eq_some_iff, Prod.mk.injEq] at h
      obtain ⟨r, hr, _, rfl⟩ := h
      exact Nat.lt_succ_of_le (length_afterWord hr)
    · simp only [Option.map_eq_some_iff, Prod.mk.injEq] at h
      obtain ⟨r, hr, _, rfl⟩ := h
      exact Nat.lt_succ_of_le (length_afterWord hr)
    · simp only [Option.map_eq_some_iff, Prod.mk.injEq] at h
      obtain ⟨r, hr, _, rfl⟩ := h
      exact Nat.lt_succ_of_le (length_afterWord hr)
    · simp only [Option.map_eq_some_iff, Prod.exists, Prod.mk.injEq] at h
      obtain ⟨n, r, hr, _, rfl⟩ := h
      exact Numeral.length_take hr

/-- All the tokens of the bytes, or none if some bytes are no token. -/
def scan : List UInt8 → Option (List Token)
  | [] => some []
  | b :: bs =>
    if isSpace b then scan bs
    else
      match h : next? (b :: bs) with
      | none => none
      | some (t, rest) =>
        have : rest.length < (b :: bs).length := length_next h
        (scan rest).map (t :: ·)
termination_by bs => bs.length
decreasing_by
  · exact Nat.lt_succ_self bs.length
  · exact this

/-- The written form. -/
def bytes : Token → List UInt8
  | .openArray => word "["
  | .closeArray => word "]"
  | .openObject => word "\x7b"
  | .closeObject => word "\x7d"
  | .comma => word ","
  | .colon => word ":"
  | .null => word "null"
  | .bool true => word "true"
  | .bool false => word "false"
  | .number n => n.bytes
  | .string l => l.bytes

end Token

end OrgAccess.Json
