import OrgAccess.Json.Token
import OrgAccess.Proofs.Json.Numeral

/-! Written tokens are read back. A literal is escaped byte by byte, so it is read back piece by
piece; an integer ends where no more of it follows; and the other tokens are told by their first
byte. Since no token begins with space, written bytes are scanned into the same tokens. -/

namespace OrgAccess.Json

namespace Literal

/-- In front of any pieces, the piece adds one byte to the text. -/
def Piece.Spells (p : Piece) (b : UInt8) : Prop :=
  ∀ ps, joinPieces (p :: ps) = (joinPieces ps).map (b :: ·)

theorem Piece.spells_byte (b : UInt8) : (Piece.byte b).Spells b := by
  intro ps
  rw [joinPieces]

theorem charBytes_of_lt : ∀ n < 32, charBytes n = [UInt8.ofNat n] := by decide

/-- A control is a character of one byte, whatever unit follows it. -/
theorem Piece.spells_unit {b : UInt8} (hb : b < 32) : (Piece.unit b.toNat).Spells b := by
  have hlt : b.toNat < 32 := by simpa [UInt8.lt_iff_toNat_lt] using hb
  have hlead : isLead b.toNat = false := by simp [isLead]; omega
  have htrail : isTrail b.toNat = false := by simp [isTrail]; omega
  have hbytes : charBytes b.toNat = [b] := by rw [charBytes_of_lt _ hlt, UInt8.ofNat_toNat]
  intro ps
  rw [joinPieces.eq_def]
  split <;> simp_all

/-- In front of any bytes, the bytes are taken as the piece. -/
def Piece.ReadFrom (p : Piece) (cs : List UInt8) : Prop :=
  ∀ bs, takePieces (cs ++ bs) = (takePieces bs).map fun r => (p :: r.1, r.2)

theorem Piece.readFrom_byte {b : UInt8} (hquote : b ≠ '"'.toUInt8) (hslash : b ≠ '\\'.toUInt8)
    (hb : ¬ b < 32) : (Piece.byte b).ReadFrom [b] := by
  intro bs
  rw [List.singleton_append, takePieces.eq_def]
  simp only [if_neg hquote, if_neg hslash, if_neg hb]
  cases takePieces bs <;> rfl

theorem Piece.readFrom_unescape {e c : UInt8} (hu : e ≠ 'u'.toUInt8) (h : unescape? e = some c) :
    (Piece.byte c).ReadFrom ['\\'.toUInt8, e] := by
  intro bs
  rw [List.cons_append, List.singleton_append, takePieces.eq_def]
  simp only [if_pos, if_neg (show '\\'.toUInt8 ≠ '"'.toUInt8 by decide), if_neg hu, h]
  cases takePieces bs <;> rfl

theorem Piece.readFrom_unit {h1 h2 h3 h4 : UInt8} {u : Nat} (h : hex4? h1 h2 h3 h4 = some u) :
    (Piece.unit u).ReadFrom ['\\'.toUInt8, 'u'.toUInt8, h1, h2, h3, h4] := by
  intro bs
  rw [takePieces.eq_def]
  simp only [List.cons_append, List.nil_append, if_pos,
    if_neg (show '\\'.toUInt8 ≠ '"'.toUInt8 by decide), h]
  cases takePieces bs <;> rfl

theorem hex4?_control : ∀ n < 32,
    hex4? '0'.toUInt8 '0'.toUInt8 (hexByte (n / 16)) (hexByte (n % 16)) = some n := by
  decide

/-- The bytes with escapes of two bytes. -/
def shortEscaped : List UInt8 := ['"'.toUInt8, '\\'.toUInt8, 8, 9, 10, 12, 13]

theorem escape_short : ∀ b ∈ shortEscaped, ∃ e ∈ Token.word "\"\\btnfr", e ≠ 'u'.toUInt8 ∧
    unescape? e = some b ∧ escape b = ['\\'.toUInt8, e] := by
  decide +kernel

/-- An escaped byte is taken as one piece that spells it. -/
theorem readFrom_escape (b : UInt8) : ∃ p : Piece, p.Spells b ∧ p.ReadFrom (escape b) := by
  by_cases hshort : b ∈ shortEscaped
  · obtain ⟨e, _, hu, hbyte, hescape⟩ := escape_short b hshort
    rw [hescape]
    exact ⟨_, Piece.spells_byte b, Piece.readFrom_unescape hu hbyte⟩
  · simp only [shortEscaped, List.mem_cons, List.not_mem_nil, or_false, not_or] at hshort
    obtain ⟨hquote, hslash, _⟩ := hshort
    by_cases hb : b < 32
    · have hlt : b.toNat < 32 := by simpa [UInt8.lt_iff_toNat_lt] using hb
      refine ⟨_, Piece.spells_unit hb, ?_⟩
      simp only [escape, *, if_false, if_true]
      exact Piece.readFrom_unit (hex4?_control _ hlt)
    · refine ⟨_, Piece.spells_byte b, ?_⟩
      simp only [escape, *, if_false]
      exact Piece.readFrom_byte hquote hslash hb

/-- Escaped bytes are taken as pieces that spell them, up to the closing quote. -/
theorem takePieces_escapes (bs rest : List UInt8) : ∃ ps, joinPieces ps = some bs ∧
    takePieces (bs.flatMap escape ++ '"'.toUInt8 :: rest) = some (ps, rest) := by
  induction bs with
  | nil =>
    refine ⟨[], rfl, ?_⟩
    rw [List.flatMap_nil, List.nil_append, takePieces.eq_def]
    simp
  | cons b bs ih =>
    obtain ⟨p, hspells, hread⟩ := readFrom_escape b
    obtain ⟨ps, hjoin, htake⟩ := ih
    refine ⟨p :: ps, ?_, ?_⟩
    · rw [hspells ps, hjoin]
      rfl
    · rw [List.flatMap_cons, List.append_assoc, hread, htake]
      rfl

theorem take_notUtf8 (rest : List UInt8) :
    take (body .notUtf8 ++ '"'.toUInt8 :: rest) = some (.notUtf8, rest) := by
  have hread : (Piece.byte 255).ReadFrom [255] :=
    Piece.readFrom_byte (by decide) (by decide) (by decide)
  have htake : takePieces ([255] ++ '"'.toUInt8 :: rest) = some ([.byte 255], rest) := by
    rw [hread, takePieces.eq_def]
    simp
  have hpieces : ofPieces [.byte 255] = .notUtf8 := by decide
  rw [take, body, htake, ← hpieces]
  rfl

theorem take_loneSurrogate (rest : List UInt8) :
    take (body .loneSurrogate ++ '"'.toUInt8 :: rest) = some (.loneSurrogate, rest) := by
  have hread : (Piece.unit 0xd800).ReadFrom (body .loneSurrogate) :=
    Piece.readFrom_unit (by decide)
  have htake : takePieces (body .loneSurrogate ++ '"'.toUInt8 :: rest) =
      some ([.unit 0xd800], rest) := by
    rw [hread, takePieces.eq_def]
    simp
  have hpieces : ofPieces [.unit 0xd800] = .loneSurrogate := by decide
  rw [take, htake, ← hpieces]
  rfl

/-- A written literal is read back. One that spells no text is read as one of its kind. -/
theorem take_body (l : Literal) (rest : List UInt8) :
    take (l.body ++ '"'.toUInt8 :: rest) = some (l, rest) := by
  cases l with
  | text s =>
    obtain ⟨ps, hjoin, htake⟩ := takePieces_escapes (Text.toUtf8 s) rest
    have hpieces : ofPieces ps = .text s := by
      rw [ofPieces, hjoin]
      simp only [Text.ofUtf8?_toUtf8]
    rw [take, body, htake, ← hpieces]
    rfl
  | notUtf8 => exact take_notUtf8 rest
  | loneSurrogate => exact take_loneSurrogate rest

end Literal

namespace Token

/-- The numbers are integers, which are written as they are read. -/
def IsWhole : Token → Prop
  | .number n => ∃ i, n = .ofInt i
  | _ => True

/-- What may follow a token: a number ends where no more of it follows. -/
def EndsAt : Token → List UInt8 → Prop
  | .number _, rest => Numeral.Stops rest
  | _, _ => True

theorem next?_string (l : Literal) (rest : List UInt8) :
    next? (Token.bytes (.string l) ++ rest) = some (.string l, rest) := by
  have hbytes : Token.bytes (.string l) ++ rest =
      '"'.toUInt8 :: (l.body ++ '"'.toUInt8 :: rest) := by
    simp [Token.bytes, Literal.bytes]
  rw [hbytes]
  show (Literal.take _).map _ = _
  rw [Literal.take_body]
  rfl

/-- A sign or a digit is the beginning of a number. -/
theorem next?_of_numeral {b : UInt8} (hb : b = '-'.toUInt8 ∨ ∃ d < 10, b = Numeral.digitByte d)
    (bs : List UInt8) :
    next? (b :: bs) = (Numeral.take (b :: bs)).map fun r => (.number r.1, r.2) := by
  rcases hb with rfl | ⟨d, hd, rfl⟩
  · rfl
  · have : d = 0 ∨ d = 1 ∨ d = 2 ∨ d = 3 ∨ d = 4 ∨ d = 5 ∨ d = 6 ∨ d = 7 ∨ d = 8 ∨ d = 9 := by
      omega
    rcases this with rfl | rfl | rfl | rfl | rfl | rfl | rfl | rfl | rfl | rfl <;> rfl

theorem next?_number (n : Int) {rest : List UInt8} (h : Numeral.Stops rest) :
    next? (Token.bytes (.number (.ofInt n)) ++ rest) = some (.number (.ofInt n), rest) := by
  obtain ⟨b, bs, hbytes, hb⟩ := Numeral.bytes_ofInt_eq_cons n
  have hread := Numeral.take_bytes_ofInt n h
  rw [Token.bytes]
  rw [hbytes, List.cons_append] at hread ⊢
  rw [next?_of_numeral hb, hread]
  rfl

/-- A written token is read back. -/
theorem next?_bytes {t : Token} (ht : t.IsWhole) {rest : List UInt8} (h : t.EndsAt rest) :
    next? (t.bytes ++ rest) = some (t, rest) := by
  cases t with
  | number n =>
    obtain ⟨i, rfl⟩ := ht
    exact next?_number i h
  | string l => exact next?_string l rest
  | bool b => cases b <;> rfl
  | _ => rfl

/-- No token begins with space. -/
theorem bytes_eq_cons {t : Token} (ht : t.IsWhole) :
    ∃ b bs, t.bytes = b :: bs ∧ isSpace b = false := by
  cases t with
  | number n =>
    obtain ⟨i, rfl⟩ := ht
    obtain ⟨b, bs, hbytes, hb⟩ := Numeral.bytes_ofInt_eq_cons i
    refine ⟨b, bs, hbytes, ?_⟩
    rcases hb with rfl | ⟨d, hd, rfl⟩
    · decide
    · exact (show ∀ d < 10, isSpace (Numeral.digitByte d) = false by decide) d hd
  | bool b => cases b <;> exact ⟨_, _, rfl, by decide⟩
  | _ => exact ⟨_, _, rfl, by decide⟩

/-- A written token is scanned into itself. -/
theorem scan_bytes {t : Token} (ht : t.IsWhole) {rest : List UInt8} (h : t.EndsAt rest) :
    scan (t.bytes ++ rest) = (scan rest).map (t :: ·) := by
  obtain ⟨b, bs, hbytes, hspace⟩ := bytes_eq_cons ht
  have hnext := next?_bytes ht h
  rw [hbytes, List.cons_append] at hnext ⊢
  rw [scan, if_neg (by simp [hspace])]
  split
  · next hnone =>
    rw [hnext] at hnone
    cases hnone
  · next hsome =>
    rw [hnext] at hsome
    cases hsome
    rfl

end Token

end OrgAccess.Json
