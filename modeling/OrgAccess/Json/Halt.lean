import OrgAccess.Json.Token

/-! Where reading halts at a token that cannot be read, or cannot be kept. A reader that passes
over the fault goes on from there, so that it matters how much of the token has been taken. -/

namespace OrgAccess.Json

namespace Literal

/-- What is left of a literal after its fault, where a leading unit may have come just before.
Whatever stands in the place of the trailing unit is taken. -/
def haltAfter (lead : Bool) : List UInt8 → List UInt8
  | [] => []
  | b :: bs =>
    if b = '\\'.toUInt8 then
      match bs with
      | [] => []
      | e :: es =>
        if e = 'u'.toUInt8 then
          match es with
          | h1 :: h2 :: h3 :: h4 :: rest =>
            match hex4? h1 h2 h3 h4 with
            | none => rest
            | some u => if isTrail u = lead then haltAfter (isLead u) rest else rest
          | _ => []
        else if lead then es
        else if (unescape? e).isSome then haltAfter false es
        else es
    else if lead ∨ b = '"'.toUInt8 ∨ b < 32 then bs
    else haltAfter false bs

/-- What is left after a faulty literal, whose opening quote has been read. A fault that only the
whole text shows is met at the closing quote. -/
def halt (bs : List UInt8) : List UInt8 := haltAfter false bs

end Literal

namespace Numeral

/-- The largest exponent of 32 bits. -/
def maxExponent : Nat := 2147483647

/-- What is left after the digits of an exponent. If it is bounded, reading halts at the digit
that takes it out of bounds. -/
def haltInExponent (bounded : Bool) : Nat → List UInt8 → List UInt8
  | _, [] => []
  | e, b :: bs =>
    match digit? b with
    | none => b :: bs
    | some d =>
      if bounded ∧ maxExponent < 10 * e + d then bs else haltInExponent bounded (10 * e + d) bs

/-- What is left after the part that begins with the letter e. Only a positive exponent of a
number that is not zero is bounded. -/
def haltAtExponent (zero : Bool) : List UInt8 → List UInt8
  | [] => []
  | b :: bs =>
    if b = 'e'.toUInt8 ∨ b = 'E'.toUInt8 then
      match (takeSign bs).2 with
      | [] => []
      | c :: cs =>
        if (digit? c).isSome then haltInExponent (!(takeSign bs).1 && !zero) 0 (c :: cs) else cs
    else b :: bs

/-- What is left after the fraction and the exponent. -/
def haltAtFraction (zero : Bool) : List UInt8 → List UInt8
  | [] => []
  | b :: bs =>
    if b = '.'.toUInt8 then
      match takeDigits bs with
      | ([], rest) => rest
      | (ds, rest) => haltAtExponent (zero && ds.all (· = 0)) rest
    else haltAtExponent zero (b :: bs)

/-- What is left after the digits, of which at least one is taken, be it a digit or not. -/
def haltAtDigits : List UInt8 → List UInt8
  | [] => []
  | b :: bs =>
    match digit? b, takeDigits bs with
    | none, _ => bs
    | some 0, ([], rest) => haltAtFraction true rest
    | some 0, _ => bs
    | some _, (_, rest) => haltAtFraction false rest

/-- What is left after a faulty numeral. -/
def halt : List UInt8 → List UInt8
  | [] => []
  | b :: bs => if b = '-'.toUInt8 then haltAtDigits bs else haltAtDigits (b :: bs)

end Numeral

namespace Token

/-- What is left after the letters of a word, as far as they are there, and the first that is
another. -/
def haltInWord : List UInt8 → List UInt8 → List UInt8
  | [], bs => bs
  | _, [] => []
  | w :: ws, b :: bs => if b = w then haltInWord ws bs else bs

/-- What is left after a token where reading halts. Of brackets and marks, and of what begins no
token, nothing is taken. -/
def halt : List UInt8 → List UInt8
  | [] => []
  | b :: bs =>
    match Char.ofUInt8 b with
    | '"' => Literal.halt bs
    | 'n' => haltInWord (word "ull") bs
    | 't' => haltInWord (word "rue") bs
    | 'f' => haltInWord (word "alse") bs
    | _ => if b = '-'.toUInt8 ∨ (Numeral.digit? b).isSome then Numeral.halt (b :: bs) else b :: bs

end Token

end OrgAccess.Json
