import OrgAccess.Proofs.Decimal

/-! The tokens of SQL that an expression of cases is made of, and how a text is split into them. A
token ends where no more of it follows, keywords are told from names without regard to case, and a
quote inside quotes is written twice. Tokens that are written with a space in front of each are
scanned into the same tokens. -/

namespace OrgAccess.Sql

/-! ## Characters -/

/-- ASCII letters, the underscore, and all that is beyond ASCII. -/
def beginsName (c : Char) : Bool :=
  ('A' ≤ c && c ≤ 'Z') || ('a' ≤ c && c ≤ 'z') || c = '_' || 128 ≤ c.toNat

/-- Digits and the dollar sign may stand in a word, but not at the beginning of a name. -/
def inWord (c : Char) : Bool := beginsName c || c.isDigit || c = '$'

def isSpace (c : Char) : Bool := [' ', '\t', '\n', '\x0b', '\x0c', '\r'].contains c

theorem inWord_of_isDigit {c : Char} (h : c.isDigit = true) : inWord c = true := by
  simp [inWord, h]

theorem beginsName_iff (c : Char) : beginsName c = true ↔
    65 ≤ c.toNat ∧ c.toNat ≤ 90 ∨ 97 ≤ c.toNat ∧ c.toNat ≤ 122 ∨ c.toNat = 95 ∨ 128 ≤ c.toNat := by
  simp [beginsName, Char.le_def, UInt32.le_iff_toNat_le, ← Char.toNat_inj, or_assoc]

theorem beginsName_of_isDigit {c : Char} (h : c.isDigit = true) : beginsName c = false := by
  rw [Bool.eq_false_iff, ne_eq, beginsName_iff]
  have hrange := (Decimal.isDigit_iff c).1 h
  omega

theorem inWord_of_isSpace {c : Char} (h : isSpace c = true) : inWord c = false := by
  simp only [isSpace, List.contains_iff_mem, List.mem_cons, List.not_mem_nil, or_false] at h
  rcases h with rfl | rfl | rfl | rfl | rfl | rfl <;> decide

theorem ne_quote_of_inWord {c : Char} (h : inWord c = true) : c ≠ '\'' := by
  rintro rfl
  exact absurd h (by decide)

/-! ## Tokens -/

inductive Keyword where
  | caseWord
  | whenWord
  | thenWord
  | elseWord
  | endWord
  deriving DecidableEq

def Keyword.word : Keyword → String
  | .caseWord => "CASE"
  | .whenWord => "WHEN"
  | .thenWord => "THEN"
  | .elseWord => "ELSE"
  | .endWord => "END"

def Keyword.all : List Keyword := [.caseWord, .whenWord, .thenWord, .elseWord, .endWord]

/-- Names and texts are kept as they are spelled, without the quotes. -/
inductive Token where
  | keyword (k : Keyword)
  | name (s : String)
  | text (s : String)
  | number (n : Nat)
  deriving DecidableEq

/-- The word in capitals, for ASCII letters. -/
def capitals (cs : List Char) : String := String.ofList (cs.map Char.toUpper)

def keyword? (cs : List Char) : Option Keyword :=
  Keyword.all.find? fun keyword => keyword.word = capitals cs

/-- A word is a keyword, a name or a number. The words that a database reserves besides the
keywords, which are listed in capitals, are no names. -/
def ofWord? (reserved : List String) : List Char → Option Token
  | [] => none
  | c :: cs =>
    if beginsName c then
      match keyword? (c :: cs) with
      | some keyword => some (.keyword keyword)
      | none =>
        if reserved.contains (capitals (c :: cs)) then none
        else some (.name (String.ofList (c :: cs)))
    else if (c :: cs).all Char.isDigit then some (.number (Decimal.value (c :: cs)))
    else none

/-- The text up to the closing quote, and what follows that quote. -/
def takeText : List Char → Option (List Char × List Char)
  | [] => none
  | c :: cs =>
    if c = '\'' then
      match cs with
      | '\'' :: rest => (takeText rest).map fun (s, rest) => ('\'' :: s, rest)
      | rest => some ([], rest)
    else (takeText cs).map fun (s, rest) => (c :: s, rest)

/-- The token at the front, and what follows it. -/
def next? (reserved : List String) : List Char → Option (Token × List Char)
  | [] => none
  | c :: cs =>
    if c = '\'' then (takeText cs).map fun (s, rest) => (.text (String.ofList s), rest)
    else
      (ofWord? reserved ((c :: cs).takeWhile inWord)).map fun t => (t, (c :: cs).dropWhile inWord)

theorem length_takeText {cs s rest : List Char} (h : takeText cs = some (s, rest)) :
    rest.length < cs.length := by
  fun_induction takeText cs generalizing s rest with
  | case1 => cases h
  | case2 cs ih =>
    simp only [Option.map_eq_some_iff, Prod.exists, Prod.mk.injEq] at h
    obtain ⟨s, rest, htake, _, rfl⟩ := h
    exact Nat.lt_succ_of_lt (Nat.lt_succ_of_lt (ih htake))
  | case3 cs =>
    cases h
    exact Nat.lt_succ_self cs.length
  | case4 c cs _ ih =>
    simp only [Option.map_eq_some_iff, Prod.exists, Prod.mk.injEq] at h
    obtain ⟨s, rest, htake, _, rfl⟩ := h
    exact Nat.lt_succ_of_lt (ih htake)

/-- A token takes up at least one character. -/
theorem length_next {reserved : List String} {cs rest : List Char} {t : Token}
    (h : next? reserved cs = some (t, rest)) : rest.length < cs.length := by
  cases cs with
  | nil => cases h
  | cons c cs =>
    rw [next?] at h
    split at h
    · simp only [Option.map_eq_some_iff, Prod.exists, Prod.mk.injEq] at h
      obtain ⟨s, rest, htake, _, rfl⟩ := h
      exact Nat.lt_succ_of_lt (length_takeText htake)
    · simp only [Option.map_eq_some_iff, Prod.mk.injEq] at h
      obtain ⟨t, hword, _, rfl⟩ := h
      have hsplit := congrArg List.length
        (List.takeWhile_append_dropWhile (p := inWord) (l := c :: cs))
      rw [List.length_append] at hsplit
      have hpos : 0 < ((c :: cs).takeWhile inWord).length := by
        refine List.length_pos_of_ne_nil fun hnil => ?_
        rw [hnil] at hword
        cases hword
      omega

/-- All the tokens of a text, or none if some part of it is no token. -/
def scan? (reserved : List String) : List Char → Option (List Token)
  | [] => some []
  | c :: cs =>
    if isSpace c then scan? reserved cs
    else
      match h : next? reserved (c :: cs) with
      | none => none
      | some (t, rest) =>
        have : rest.length < (c :: cs).length := length_next h
        (scan? reserved rest).map (t :: ·)
termination_by cs => cs.length
decreasing_by
  · exact Nat.lt_succ_self cs.length
  · exact this

/-! ## Written tokens -/

/-- Each quote is written twice. -/
def doubled (s : List Char) : List Char := s.flatMap fun c => if c = '\'' then [c, c] else [c]

def Token.spelling : Token → List Char
  | .keyword k => k.word.toList
  | .name s => s.toList
  | .text s => '\'' :: (doubled s.toList ++ ['\''])
  | .number n => Decimal.natDigits n

/-- A space in front of each token. -/
def spaced (ts : List Token) : List Char := ts.flatMap fun t => ' ' :: t.spelling

/-- A name that may stand as it is: neither a keyword nor reserved, whatever its case. -/
structure PlainName (reserved : List String) (name : String) : Prop where
  begins : ∃ c, name.toList.head? = some c ∧ beginsName c = true
  goesOn : ∀ c ∈ name.toList, inWord c = true
  notKeyword : ∀ keyword : Keyword, capitals name.toList ≠ keyword.word
  notReserved : capitals name.toList ∉ reserved

/-- Names have to be plain. -/
def Token.Plain (reserved : List String) : Token → Prop
  | .name s => PlainName reserved s
  | _ => True

/-- Nothing follows, or a space does. -/
def Ends (rest : List Char) : Prop := ∀ c, rest.head? = some c → isSpace c = true

theorem ends_spaced (ts : List Token) : Ends (spaced ts) := by
  cases ts with
  | nil => exact nofun
  | cons t ts =>
    rintro c ⟨⟩
    decide

theorem doubled_of_not_mem {s : List Char} (h : '\'' ∉ s) : doubled s = s := by
  induction s with
  | nil => rfl
  | cons c s ih =>
    rw [List.mem_cons, not_or] at h
    rw [doubled, List.flatMap_cons, if_neg (Ne.symm h.1), ← doubled, ih h.2, List.singleton_append]

/-- The closing quote is the first one that stands alone. -/
theorem takeText_doubled (s : List Char) {rest : List Char} (hrest : Ends rest) :
    takeText (doubled s ++ '\'' :: rest) = some (s, rest) := by
  induction s with
  | nil =>
    cases rest with
    | nil => rfl
    | cons d rest =>
      have hd : d ≠ '\'' := by
        rintro rfl
        exact absurd (hrest '\'' rfl) (by decide)
      simp [doubled, takeText, hd]
  | cons c s ih =>
    by_cases hc : c = '\''
    · subst hc
      show (takeText (doubled s ++ '\'' :: rest)).map _ = _
      rw [ih]
      rfl
    · have hcons : doubled (c :: s) ++ '\'' :: rest = c :: (doubled s ++ '\'' :: rest) := by
        simp [doubled, hc]
      rw [hcons, takeText.eq_def]
      simp only [if_neg hc, ih]
      rfl

variable {reserved : List String}

theorem next?_word {w rest : List Char} (hne : w ≠ []) (hw : ∀ c ∈ w, inWord c = true)
    (hrest : Ends rest) :
    next? reserved (w ++ rest) = (ofWord? reserved w).map fun t => (t, rest) := by
  obtain ⟨c, w, rfl⟩ := List.exists_cons_of_ne_nil hne
  have hstop : rest.takeWhile inWord = [] ∧ rest.dropWhile inWord = rest := by
    cases rest with
    | nil => exact ⟨rfl, rfl⟩
    | cons d rest =>
      have hd : inWord d = false := inWord_of_isSpace (hrest d rfl)
      simp [hd]
  rw [List.cons_append, next?, if_neg (ne_quote_of_inWord (hw c List.mem_cons_self)),
    ← List.cons_append, List.takeWhile_append_of_pos hw, List.dropWhile_append_of_pos hw, hstop.1,
    hstop.2, List.append_nil]

theorem ofWord?_keyword (keyword : Keyword) :
    ofWord? reserved keyword.word.toList = some (.keyword keyword) := by
  cases keyword <;> rfl

theorem ofWord?_name {name : String} (h : PlainName reserved name) :
    ofWord? reserved name.toList = some (.name name) := by
  obtain ⟨c, hhead, hc⟩ := h.begins
  obtain ⟨cs, hcs⟩ := List.head?_eq_some_iff.1 hhead
  have hkeyword : keyword? (c :: cs) = none := by
    rw [keyword?, List.find?_eq_none]
    intro keyword _
    simpa [hcs] using (h.notKeyword keyword).symm
  have hreserved : reserved.contains (capitals (c :: cs)) = false := by
    simpa [hcs] using h.notReserved
  rw [hcs, ofWord?, if_pos hc, hkeyword]
  simp only [hreserved]
  rw [← hcs, String.ofList_toList]
  rfl

theorem ofWord?_number (n : Nat) : ofWord? reserved (Decimal.natDigits n) = some (.number n) := by
  obtain ⟨c, cs, hcs⟩ := List.exists_cons_of_ne_nil (Decimal.natDigits_ne_nil n)
  have hdigits : ∀ d ∈ c :: cs, d.isDigit = true := by
    intro d hd
    exact Decimal.isDigit_of_mem_natDigits (hcs ▸ hd)
  have hc : beginsName c = false := beginsName_of_isDigit (hdigits c List.mem_cons_self)
  rw [hcs, ofWord?, if_neg (by simp [hc]), if_pos (List.all_eq_true.2 hdigits), ← hcs,
    Decimal.value_natDigits]

/-- A written token is read back. -/
theorem next?_spelling {t : Token} (ht : t.Plain reserved) {rest : List Char} (hrest : Ends rest) :
    next? reserved (t.spelling ++ rest) = some (t, rest) := by
  cases t with
  | keyword keyword =>
    have hword : ∀ c ∈ keyword.word.toList, inWord c = true := by
      cases keyword <;> exact List.all_eq_true.1 rfl
    rw [Token.spelling, next?_word (by cases keyword <;> decide) hword hrest, ofWord?_keyword]
    rfl
  | name name =>
    obtain ⟨c, hhead, _⟩ := ht.begins
    have hne : name.toList ≠ [] := by
      intro hnil
      rw [hnil] at hhead
      cases hhead
    rw [Token.spelling, next?_word hne ht.goesOn hrest, ofWord?_name ht]
    rfl
  | text s =>
    have hcons : (Token.text s).spelling ++ rest = '\'' :: (doubled s.toList ++ '\'' :: rest) := by
      simp [Token.spelling]
    rw [hcons, next?, if_pos rfl, takeText_doubled s.toList hrest]
    simp
  | number n =>
    have hdigits : ∀ c ∈ Decimal.natDigits n, inWord c = true := by
      intro c hc
      exact inWord_of_isDigit (Decimal.isDigit_of_mem_natDigits hc)
    rw [Token.spelling, next?_word (Decimal.natDigits_ne_nil n) hdigits hrest, ofWord?_number]
    rfl

/-- No token begins with a space. -/
theorem next?_of_isSpace {c : Char} (hc : isSpace c = true) (cs : List Char) :
    next? reserved (c :: cs) = none := by
  have hquote : c ≠ '\'' := by
    rintro rfl
    exact absurd hc (by decide)
  simp [next?, hquote, inWord_of_isSpace hc, ofWord?]

theorem scan?_of_next? {cs rest : List Char} {t : Token} (h : next? reserved cs = some (t, rest)) :
    scan? reserved cs = (scan? reserved rest).map (t :: ·) := by
  cases cs with
  | nil => cases h
  | cons c cs =>
    have hc : ¬ isSpace c = true := by
      intro hc
      rw [next?_of_isSpace hc] at h
      cases h
    rw [scan?, if_neg hc]
    split
    · next hnone =>
      rw [h] at hnone
      cases hnone
    · next hsome =>
      rw [h] at hsome
      cases hsome
      rfl

/-- Written tokens are scanned into themselves. -/
theorem scan?_spaced {ts : List Token} (h : ∀ t ∈ ts, t.Plain reserved) :
    scan? reserved (spaced ts) = some ts := by
  induction ts with
  | nil => rw [spaced, List.flatMap_nil, scan?]
  | cons t ts ih =>
    obtain ⟨ht, hts⟩ := List.forall_mem_cons.1 h
    have hsplit : spaced (t :: ts) = ' ' :: (t.spelling ++ spaced ts) := rfl
    rw [hsplit, scan?, if_pos (by decide), scan?_of_next? (next?_spelling ht (ends_spaced ts)),
      ih hts]
    rfl

end OrgAccess.Sql
