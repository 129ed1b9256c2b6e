import OrgAccess.Fault
import OrgAccess.Proofs.Decimal
import OrgAccess.Proofs.Text

/-! Identifiers as texts. A text names an identifier when it is a numeral of a number in its range,
but for blanks around it. One of the texts that name an identifier is the plainest, and this is the
one that it is written as. -/

namespace OrgAccess

theorem Text.isBlank_of_isDigit {c : Char} (h : c.isDigit = true) : isBlank c = false := by
  have hrange := (Decimal.isDigit_iff c).1 h
  simp only [isBlank, Bool.or_eq_false_iff, Bool.and_eq_false_iff, decide_eq_false_iff_not,
    beq_eq_false_iff_ne]
  omega

namespace Id

variable {kind : IdKind} {id : Id kind}

theorem pos_iff : 0 < id.value ↔ 0 < id.value.toInt := by
  rw [Int64.lt_iff_toInt_lt, Int64.toInt_zero]

/-- A positive identifier is written as the number that it is. -/
theorem toList_text (h : 0 < id.value) :
    id.text.toList = Decimal.natDigits id.value.toInt.toNat := by
  obtain ⟨n, hn⟩ := Int.eq_ofNat_of_zero_le (Int.le_of_lt (pos_iff.1 h))
  rw [text, Decimal.ofInt, String.toList_ofList, hn]
  rfl

theorem isDigit_of_mem_text (h : 0 < id.value) {c : Char} (hc : c ∈ id.text.toList) :
    c.isDigit = true := by
  rw [toList_text h] at hc
  exact Decimal.isDigit_of_mem_natDigits hc

/-- The text of a positive identifier can stand in a path. -/
theorem not_mem_text_of_lt_zero (h : 0 < id.value) {c : Char} (hc : c.toNat < '0'.toNat) :
    c ∉ id.text.toList := by
  intro hmem
  have hdigit := (Decimal.isDigit_iff c).1 (isDigit_of_mem_text h hmem)
  have hzero : '0'.toNat = 48 := rfl
  omega

/-- An identifier is told by its number. -/
theorem toInt_value_inj {a b : Id kind} : a.value.toInt = b.value.toInt ↔ a = b := by
  cases a
  cases b
  rw [Int64.toInt_inj, Id.mk.injEq]

/-! ## Texts that name an identifier -/

theorem greatest_eq : greatest = 2 ^ 63 - 1 := by decide

theorem toInt_ofInt {n : Nat} (h : n ≤ 2 ^ 63 - 1) : (Int64.ofInt n).toInt = n :=
  Int64.toInt_ofInt_of_le (by omega) (by omega)

theorem exists_toInt_eq (kind : IdKind) {n : Nat} (h : n ≤ 2 ^ 63 - 1) :
    ∃ id : Id kind, id.value.toInt = n :=
  ⟨⟨Int64.ofInt n⟩, toInt_ofInt h⟩

theorem parse_eq_ok_iff (s : String) (id : Id kind) :
    parse s = .ok id ↔ ∃ n : Nat, Decimal.Spells (2 ^ 63 - 1) s n ∧ id.value.toInt = n := by
  constructor
  · intro h
    rw [parse] at h
    split at h
    · cases h
    · rename_i z hread
      split at h
      · rename_i hpos
        obtain ⟨n, rfl⟩ := Int.eq_ofNat_of_zero_le (Int.le_of_lt hpos)
        have hn : 0 < n := Int.ofNat_lt.1 hpos
        obtain ⟨hnumeral, hle⟩ := (Decimal.readInt_eq_ok_iff_of_pos hn _).1 hread
        rw [greatest_eq] at hle
        cases h
        exact ⟨n, (Decimal.spells_iff _ s n).2 ⟨hn, hnumeral, hle⟩, toInt_ofInt hle⟩
      · cases h
  · rintro ⟨n, hspells, hid⟩
    obtain ⟨hpos, hnumeral, hle⟩ := (Decimal.spells_iff _ s n).1 hspells
    rw [← greatest_eq] at hle
    have hread : Decimal.readInt least greatest (Text.trimBlanks s.toList) = .ok n :=
      (Decimal.readInt_eq_ok_iff_of_pos hpos _).2 ⟨hnumeral, hle⟩
    have hidpos : 0 < id.value.toInt := hid ▸ Int.natCast_pos.2 hpos
    rw [parse, hread, ← hid]
    simp only [hidpos, if_true, Int64.ofInt_toInt]

/-- An identifier that is named by a text is positive. -/
theorem pos_of_parse {s : String} (h : parse s = .ok id) : 0 < id.value := by
  obtain ⟨n, ⟨_, _, _, hpos, _⟩, hid⟩ := (parse_eq_ok_iff s id).1 h
  rw [pos_iff, hid]
  exact Int.natCast_pos.2 hpos

theorem exists_parse_iff (kind : IdKind) (s : String) (n : Nat) :
    (∃ id : Id kind, parse s = .ok id ∧ id.value.toInt = n) ↔ Decimal.Spells (2 ^ 63 - 1) s n := by
  constructor
  · rintro ⟨id, hparse, hid⟩
    obtain ⟨m, hspells, hm⟩ := (parse_eq_ok_iff s id).1 hparse
    rwa [Int.ofNat_inj.1 (hid.symm.trans hm)]
  · intro hspells
    obtain ⟨id, hid⟩ := exists_toInt_eq kind ((Decimal.spells_iff _ s n).1 hspells).2.2
    exact ⟨id, (parse_eq_ok_iff s id).2 ⟨n, hspells, hid⟩, hid⟩

/-- The text of a positive identifier names the identifier. -/
theorem parse_text (h : 0 < id.value) : parse id.text = .ok id := by
  have hpos := pos_iff.1 h
  have hvalue : ((id.value.toInt.toNat : Nat) : Int) = id.value.toInt :=
    Int.toNat_of_nonneg (Int.le_of_lt hpos)
  refine (parse_eq_ok_iff _ _).2
    ⟨id.value.toInt.toNat, (Decimal.spells_iff _ _ _).2 ⟨?_, ?_, ?_⟩, hvalue.symm⟩
  · omega
  · rw [Text.trimBlanks_of_not_blank fun c hc => Text.isBlank_of_isDigit (isDigit_of_mem_text h hc),
      toList_text h]
    exact Decimal.numeral_natDigits _
  · have hle := id.value.toInt_le
    have hgreatest : Int64.maxValue.toInt = 2 ^ 63 - 1 := by decide
    omega

/-- The text is refused as no identifier of the kind. -/
def Refused (kind : IdKind) (s : String) : Prop :=
  ∃ reason, (parse s : Except IdFault (Id kind)).mapError (·.asDomainFault kind) =
    .error (.badId reason)

theorem refused_iff (kind : IdKind) (s : String) :
    Refused kind s ↔ ∀ n, ¬ Decimal.Spells (2 ^ 63 - 1) s n := by
  cases hparse : (parse s : Except IdFault (Id kind)) with
  | ok id =>
    obtain ⟨n, hspells, _⟩ := (parse_eq_ok_iff s id).1 hparse
    refine iff_of_false ?_ fun hnone => hnone n hspells
    rintro ⟨reason, hrefused⟩
    rw [hparse] at hrefused
    cases hrefused
  | error fault =>
    refine iff_of_true ⟨fault.message kind, by rw [hparse]; rfl⟩ ?_
    intro n hspells
    obtain ⟨id, hid, _⟩ := (exists_parse_iff kind s n).2 hspells
    cases hparse.symm.trans hid

/-- Texts without blanks around them that name no identifier: nothing at all, a text with some other
character than digits and plus signs, and numerals of zero or of too great a number. A minus sign is
such a character, and so are a blank inside the text and a digit that is not ASCII. -/
inductive Unfit (t : String) : Prop where
  | empty (h : t = "")
  | character {c : Char} (mem : c ∈ t.toList) (noPlus : c ≠ '+') (noDigit : c.isDigit = false)
  | zero (h : Decimal.Numeral t.toList 0)
  | tooGreat {n : Nat} (h : Decimal.Numeral t.toList n) (past : 2 ^ 63 ≤ n)

theorem Unfit.not_spells {s t : String} (h : Unfit t) (htrims : Text.Trims s t) (n : Nat) :
    ¬ Decimal.Spells (2 ^ 63 - 1) s n := by
  rintro ⟨t', htrims', hnumeral, hpos, hle⟩
  obtain rfl : t' = t :=
    ((Text.trims_iff s t').1 htrims').symm.trans ((Text.trims_iff s t).1 htrims)
  cases h with
  | empty h =>
    subst h
    rcases hnumeral with ⟨nonempty, _⟩
    exact nonempty rfl
  | character mem noPlus noDigit => simp [hnumeral.isDigit_of_mem mem noPlus] at noDigit
  | zero hzero =>
    have hn := hnumeral.unique hzero
    omega
  | tooGreat hgreat past =>
    have hn := hnumeral.unique hgreat
    omega

/-! ## The plainest text -/

/-- The text has no sign, nothing blank around it and no zero in front. -/
structure Plain (t : String) : Prop where
  noPlus : t.toList.head? ≠ some '+'
  noMinus : t.toList.head? ≠ some '-'
  tight : Text.Tight t
  noZero : t.toList.head? ≠ some '0'

theorem plain_text (h : 0 < id.value) : Plain id.text := by
  have hsign : ∀ c, c.isDigit = false → id.text.toList.head? ≠ some c := by
    intro c hc hhead
    rw [isDigit_of_mem_text h (List.mem_of_head? hhead)] at hc
    cases hc
  refine ⟨hsign '+' (by decide), hsign '-' (by decide), ⟨?_, ?_⟩, ?_⟩
  · intro c hc
    exact Text.isBlank_of_isDigit (isDigit_of_mem_text h (List.mem_of_head? hc))
  · intro c hc
    exact Text.isBlank_of_isDigit (isDigit_of_mem_text h (List.mem_of_getLast? hc))
  · rw [toList_text h]
    exact Decimal.head?_natDigits_ne (Int.lt_toNat.2 (pos_iff.1 h))

/-- The identifier names itself by one plain text. -/
theorem eq_text_iff (h : 0 < id.value) (t : String) :
    t = id.text ↔ parse t = .ok id ∧ Plain t := by
  constructor
  · rintro rfl
    exact ⟨parse_text h, plain_text h⟩
  · rintro ⟨hparse, hplain⟩
    obtain ⟨n, hspells, hid⟩ := (parse_eq_ok_iff t id).1 hparse
    obtain ⟨t', htrims, hnumeral, _⟩ := hspells
    obtain rfl : t = t' := hplain.tight.trim_eq.symm.trans ((Text.trims_iff t t').1 htrims)
    have hdigits : Decimal.natDigits n = t.toList := by
      generalize hcs : t.toList = cs at hnumeral
      cases hnumeral with
      | plain nonempty digits => exact Decimal.natDigits_value nonempty digits (hcs ▸ hplain.noZero)
      | plus _ _ => exact absurd (by rw [hcs]; rfl) hplain.noPlus
    rw [← String.toList_inj, toList_text h, hid, Int.toNat_natCast, hdigits]

/-- A text names an identifier, of whatever kind, just when it is a plus sign or none and at least
one ASCII digit, but for blanks around it, and the identifier has the value of the digits, which is
positive and fits 64 bits. Every other text is refused as no identifier. Every number in the range
is written as a text that names it, and whatever text names an identifier, the identifier is written
as the one text that names it without a sign, blanks around it or a zero in front. -/
theorem named_by_numerals (kind : IdKind) :
    (∀ (s : String) (n : Nat),
        (∃ id : Id kind, parse s = .ok id ∧ id.value.toInt = n) ↔ Decimal.Spells (2 ^ 63 - 1) s n) ∧
      (∀ s, Refused kind s ↔ ∀ n, ¬ Decimal.Spells (2 ^ 63 - 1) s n) ∧
      (∀ s t, Text.Trims s t → Unfit t → Refused kind s) ∧
      (∀ n : Nat, 1 ≤ n → n ≤ 2 ^ 63 - 1 →
        ∃ id : Id kind, id.value.toInt = n ∧ parse id.text = .ok id) ∧
      ∀ (s : String) (id : Id kind), parse s = .ok id →
        ∀ t, t = id.text ↔ parse t = .ok id ∧ Plain t := by
  refine ⟨exists_parse_iff kind, refused_iff kind, ?_, ?_, ?_⟩
  · intro s t htrims hunfit
    exact (refused_iff kind s).2 (hunfit.not_spells htrims)
  · intro n hpos hle
    obtain ⟨id, hid⟩ := exists_toInt_eq kind hle
    exact ⟨id, hid, parse_text (pos_iff.2 (hid ▸ Int.natCast_pos.2 hpos))⟩
  · intro s id hparse
    exact eq_text_iff (pos_of_parse hparse)

/-- A sign, zeros in front and blanks make no difference, and `42` is the plainest text. A blank
inside, digits of another script and a number that is one too great are refused. -/
theorem named_by_numerals_sample :
    (parse "\u00a0+0042\n" : Except IdFault OrgId) = .ok ⟨42⟩ ∧
      (parse "42" : Except IdFault OrgId) = .ok ⟨42⟩ ∧ Plain "42" ∧
      Text.Trims " 4 2" "4 2" ∧ Unfit "4 2" ∧ Refused .org " 4 2" ∧
      Unfit "٤٢" ∧ Refused .org "٤٢" ∧
      Unfit "9223372036854775808" ∧ Refused .org "9223372036854775808" ∧
      1 ≤ 9223372036854775807 ∧ 9223372036854775807 ≤ 2 ^ 63 - 1 ∧
      ∃ id : OrgId, id.value.toInt = 9223372036854775807 ∧ parse id.text = .ok id := by
  obtain ⟨_, _, hrefused, hwritten, hplainest⟩ := named_by_numerals .org
  have hparse : (parse "\u00a0+0042\n" : Except IdFault OrgId) = .ok ⟨42⟩ := by rfl
  have htext : "42" = (⟨42⟩ : OrgId).text := by decide +kernel
  obtain ⟨hnamed, hplain⟩ := (hplainest _ _ hparse "42").1 htext
  have htrims : ∀ s t, Text.trim s = t → Text.Trims s t := fun s t => (Text.trims_iff s t).2
  have hspace := htrims " 4 2" "4 2" (by decide +kernel)
  have hinside : Unfit "4 2" := .character (c := ' ') (by decide) (by decide) (by decide)
  have harabic : Unfit "٤٢" := .character (c := '٤') (by decide) (by decide) (by decide)
  have hgreat : Unfit "9223372036854775808" :=
    .tooGreat (.plain (by decide) (List.all_eq_true.1 (by decide))) (by decide +kernel)
  exact ⟨hparse, hnamed, hplain, hspace, hinside, hrefused _ _ hspace hinside, harabic,
    hrefused _ _ (htrims _ _ (by decide +kernel)) harabic, hgreat,
    hrefused _ _ (htrims _ _ (by decide +kernel)) hgreat, by omega, by omega,
    hwritten 9223372036854775807 (by omega) (by omega)⟩

end Id

end OrgAccess
