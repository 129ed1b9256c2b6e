import OrgAccess.Text.Utf8

/-! String literals of JSON, read from the bytes after the opening quote. A literal may be well
formed and still spell no text: its bytes may not be UTF-8, or it may name half of a surrogate
pair. That matters only to those who want the text. -/

namespace OrgAccess.Json

/-- What a string literal spells. -/
inductive Literal where
  | text (s : String)
  | notUtf8
  | loneSurrogate
  deriving DecidableEq

namespace Literal

def isText : Literal → Bool
  | .text _ => true
  | _ => false

/-- A piece of a literal: a byte of its text, or a UTF-16 unit named by its number. -/
inductive Piece where
  | byte (b : UInt8)
  | unit (u : Nat)
  deriving DecidableEq

def hexDigit? (b : UInt8) : Option Nat :=
  if '0'.toUInt8 ≤ b ∧ b ≤ '9'.toUInt8 then some (b.toNat - '0'.toNat)
  else if 'a'.toUInt8 ≤ b ∧ b ≤ 'f'.toUInt8 then some (b.toNat - 'a'.toNat + 10)
  else if 'A'.toUInt8 ≤ b ∧ b ≤ 'F'.toUInt8 then some (b.toNat - 'A'.toNat + 10)
  else none

def hex4? (a b c d : UInt8) : Option Nat := do
  return ((← hexDigit? a) * 16 + (← hexDigit? b)) * 256 + (← hexDigit? c) * 16 + (← hexDigit? d)

/-- The byte that a backslash and one more byte stand for. -/
def unescape? (b : UInt8) : Option UInt8 :=
  match Char.ofUInt8 b with
  | '"' => some '"'.toUInt8
  | '\\' => some '\\'.toUInt8
  | '/' => some '/'.toUInt8
  | 'b' => some 8
  | 'f' => some 12
  | 'n' => some 10
  | 'r' => some 13
  | 't' => some 9
  | _ => none

/-- The pieces up to the closing quote, and what follows it. Bare control bytes are refused. -/
def takePieces : List UInt8 → Option (List Piece × List UInt8)
  | [] => none
  | b :: bs =>
    if b = '"'.toUInt8 then some ([], bs)
    else if b = '\\'.toUInt8 then
      match bs with
      | [] => none
      | e :: es =>
        if e = 'u'.toUInt8 then
          match es with
          | h1 :: h2 :: h3 :: h4 :: rest => do
            let u ← hex4? h1 h2 h3 h4
            let (ps, rest) ← takePieces rest
            return (.unit u :: ps, rest)
          | _ => none
        else do
          let c ← unescape? e
          let (ps, rest) ← takePieces es
          return (.byte c :: ps, rest)
    else if b < 32 then none
    else do
      let (ps, rest) ← takePieces bs
      return (.byte b :: ps, rest)

def isLead (u : Nat) : Bool := 0xd800 ≤ u ∧ u ≤ 0xdbff

def isTrail (u : Nat) : Bool := 0xdc00 ≤ u ∧ u ≤ 0xdfff

/-- The UTF-8 bytes of the character with a number. -/
def charBytes (n : Nat) : List UInt8 := String.utf8EncodeChar (Char.ofNat n)

/-- The bytes of the text. A leading and a trailing unit together are one character, and
neither stands for one alone. -/
def joinPieces : List Piece → Option (List UInt8)
  | [] => some []
  | .byte b :: ps => (joinPieces ps).map (b :: ·)
  | .unit u :: .unit v :: ps =>
    if isLead u ∧ isTrail v then
      (joinPieces ps).map (charBytes (0x10000 + (u - 0xd800) * 0x400 + (v - 0xdc00)) ++ ·)
    else if isLead u ∨ isTrail u then none
    else (joinPieces (.unit v :: ps)).map (charBytes u ++ ·)
  | .unit u :: ps =>
    if isLead u ∨ isTrail u then none else (joinPieces ps).map (charBytes u ++ ·)

def ofPieces (ps : List Piece) : Literal :=
  match joinPieces ps with
  | none => .loneSurrogate
  | some bs =>
    match Text.ofUtf8? bs with
    | none => .notUtf8
    | some s => .text s

/-- The literal whose opening quote has just been read, and what follows it. -/
def take (bs : List UInt8) : Option (Literal × List UInt8) :=
  (takePieces bs).map fun (ps, rest) => (ofPieces ps, rest)

theorem length_takePieces {bs rest : List UInt8} {ps : List Piece}
    (h : takePieces bs = some (ps, rest)) : rest.length < bs.length := by
  fun_induction takePieces bs generalizing ps with
  | case1 => simp at h
  | case2 => simp_all
  | case3 => simp at h
  | case4 h1 h2 h3 h4 tail _ ih =>
    simp only [Option.bind_eq_bind, Option.pure_def, Option.bind_eq_some_iff, Prod.exists,
      Option.some.injEq, Prod.mk.injEq] at h
    obtain ⟨_, _, qs, r, hr, _, rfl⟩ := h
    have := ih hr
    simp only [List.length_cons] at this ⊢
    omega
  | case5 => simp at h
  | case6 e es _ _ ih =>
    simp only [Option.bind_eq_bind, Option.pure_def, Option.bind_eq_some_iff, Prod.exists,
      Option.some.injEq, Prod.mk.injEq] at h
    obtain ⟨_, _, qs, r, hr, _, rfl⟩ := h
    have := ih hr
    simp only [List.length_cons] at this ⊢
    omega
  | case7 => simp at h
  | case8 b bs _ _ _ ih =>
    simp only [Option.bind_eq_bind, Option.pure_def, Option.bind_eq_some_iff, Prod.exists,
      Option.some.injEq, Prod.mk.injEq] at h
    obtain ⟨qs, r, hr, _, rfl⟩ := h
    have := ih hr
    simp only [List.length_cons] at this ⊢
    omega

/-- A literal ends with its quote. -/
theorem length_take {bs rest : List UInt8} {l : Literal} (h : take bs = some (l, rest)) :
    rest.length < bs.length := by
  simp only [take, Option.map_eq_some_iff, Prod.exists, Prod.mk.injEq] at h
  obtain ⟨ps, r, hr, _, rfl⟩ := h
  exact length_takePieces hr

def hexByte (n : Nat) : UInt8 := (if n < 10 then '0'.toNat + n else 'a'.toNat + (n - 10)).toUInt8

/-- A byte of a text as it is written: quotes, backslashes and controls are escaped. -/
def escape (b : UInt8) : List UInt8 :=
  if b = '"'.toUInt8 then ['\\'.toUInt8, '"'.toUInt8]
  else if b = '\\'.toUInt8 then ['\\'.toUInt8, '\\'.toUInt8]
  else if b = 8 then ['\\'.toUInt8, 'b'.toUInt8]
  else if b = 9 then ['\\'.toUInt8, 't'.toUInt8]
  else if b = 10 then ['\\'.toUInt8, 'n'.toUInt8]
  else if b = 12 then ['\\'.toUInt8, 'f'.toUInt8]
  else if b = 13 then ['\\'.toUInt8, 'r'.toUInt8]
  else if b < 32 then
    ['\\'.toUInt8, 'u'.toUInt8, '0'.toUInt8, '0'.toUInt8, hexByte (b.toNat / 16),
      hexByte (b.toNat % 16)]
  else [b]

/-- The bytes between the quotes. What spells no text is written in the shortest form that
spells none either. -/
def body : Literal → List UInt8
  | .text s => (Text.toUtf8 s).flatMap escape
  | .notUtf8 => [255]
  | .loneSurrogate => "\\ud800".toList.map Char.toUInt8

/-- The written form, with its quotes. -/
def bytes (l : Literal) : List UInt8 := '"'.toUInt8 :: l.body ++ ['"'.toUInt8]

end Literal

end OrgAccess.Json
