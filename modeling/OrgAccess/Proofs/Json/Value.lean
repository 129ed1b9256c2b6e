import OrgAccess.Json.Value
import OrgAccess.Proofs.Json.Token

/-! Written values are read back. The tokens of a value are scanned one by one, for a numeral is
always followed by a mark; and the machine that reads them comes, after the last token of a value,
to the state that holds it, whatever containers are open. -/

namespace OrgAccess.Json

/-- A value whose numbers are integers. -/
inductive Whole : Json → Prop where
  | null : Whole .null
  | bool (b : Bool) : Whole (.bool b)
  | int (n : Int) : Whole (.number (.ofInt n))
  | string (l : Literal) : Whole (.string l)
  | array {xs : List Json} (h : ∀ x ∈ xs, Whole x) : Whole (.array xs)
  | object {ms : List (Literal × Json)} (h : ∀ m ∈ ms, Whole m.2) : Whole (.object ms)

/-- Written in front of what does not go on with a numeral, the tokens are scanned into
themselves. -/
def Scans (ts : List Token) : Prop :=
  ∀ rest, Numeral.Stops rest →
    Token.scan (ts.flatMap Token.bytes ++ rest) = (Token.scan rest).map (ts ++ ·)

/-- Brackets, commas and colons. -/
def Token.isMark : Token → Bool
  | .null => false
  | .bool _ => false
  | .number _ => false
  | .string _ => false
  | _ => true

theorem Token.stops_bytes {t : Token} (ht : t.isMark) (rest : List UInt8) :
    Numeral.Stops (t.bytes ++ rest) := by
  intro b hb
  cases t with
  | null | bool | number | string => cases ht
  | openArray | closeArray | openObject | closeObject | comma | colon =>
    cases hb
    decide

theorem scans_nil : Scans [] := by
  intro rest _
  simp

theorem scans_singleton {t : Token} (ht : t.IsWhole) : Scans [t] := by
  intro rest hrest
  have hend : t.EndsAt rest := by
    cases t with
    | number n => exact hrest
    | _ => trivial
  rw [List.flatMap_singleton, Token.scan_bytes ht hend]
  rfl

/-- A token that is no number may stand in front of anything. -/
theorem Scans.cons {t : Token} {ts : List Token} (ht : t.IsWhole) (hend : ∀ rest, t.EndsAt rest)
    (h : Scans ts) : Scans (t :: ts) := by
  intro rest hrest
  rw [List.flatMap_cons, List.append_assoc, Token.scan_bytes ht (hend _), h rest hrest]
  cases Token.scan rest <;> rfl

theorem Scans.mark {t : Token} {ts : List Token} (ht : t.isMark) (h : Scans ts) :
    Scans (t :: ts) := by
  cases t with
  | null | bool | number | string => cases ht
  | openArray | closeArray | openObject | closeObject | comma | colon =>
    exact h.cons trivial fun _ => trivial

theorem Scans.key {ts : List Token} (h : Scans ts) (key : Literal) :
    Scans (.string key :: .colon :: ts) :=
  Scans.cons (t := .string key) trivial (fun _ => trivial) (h.mark rfl)

/-- A mark parts what comes before it from what comes after. -/
theorem Scans.append {ss ts : List Token} {t : Token} (hs : Scans ss) (ht : t.isMark)
    (h : Scans ts) : Scans (ss ++ t :: ts) := by
  intro rest hrest
  have hstops : Numeral.Stops ((t :: ts).flatMap Token.bytes ++ rest) := by
    rw [List.flatMap_cons, List.append_assoc]
    exact Token.stops_bytes ht _
  rw [List.flatMap_append, List.append_assoc, hs _ hstops, h.mark ht rest hrest]
  cases Token.scan rest <;> simp

theorem scans_elementTokens {xs : List Json} (h : ∀ x ∈ xs, Scans x.tokens) :
    Scans (elementTokens xs) := by
  match xs with
  | [] => exact scans_nil
  | [x] => exact h x List.mem_cons_self
  | x :: y :: xs =>
    have hrest := scans_elementTokens fun z hz => h z (List.mem_cons_of_mem x hz)
    exact (h x List.mem_cons_self).append rfl hrest

theorem scans_memberTokens {ms : List (Literal × Json)} (h : ∀ m ∈ ms, Scans m.2.tokens) :
    Scans (memberTokens ms) := by
  match ms with
  | [] => exact scans_nil
  | [(key, x)] => exact (h (key, x) List.mem_cons_self).key key
  | (key, x) :: m :: ms =>
    have hrest := scans_memberTokens fun n hn => h n (List.mem_cons_of_mem (key, x) hn)
    exact ((h (key, x) List.mem_cons_self).append rfl hrest).key key

theorem Whole.scans {j : Json} (h : j.Whole) : Scans j.tokens := by
  induction h with
  | null => exact scans_singleton trivial
  | bool b => exact scans_singleton trivial
  | int n => exact scans_singleton ⟨n, rfl⟩
  | string l => exact scans_singleton trivial
  | array _ ih => exact ((scans_elementTokens ih).append rfl scans_nil).mark rfl
  | object _ ih => exact ((scans_memberTokens ih).append rfl scans_nil).mark rfl

/-- Read where a value may begin, the tokens come to the value, whatever is open. -/
def Completes (ts : List Token) (j : Json) : Prop :=
  ∀ stack, ts.foldlM State.step (.value stack) = some (.after j stack)

theorem completes_singleton {t : Token} {j : Json}
    (h : ∀ stack, State.beginValue stack t = some (.after j stack)) : Completes [t] j := by
  intro stack
  simp [State.step, h]

theorem Completes.append {ts : List Token} {j : Json} (h : Completes ts j) (us : List Token)
    (stack : List Frame) : (ts ++ us).foldlM State.step (.value stack) =
      us.foldlM State.step (.after j stack) := by
  rw [List.foldlM_append, h stack]
  rfl

theorem foldlM_step {st next : State} {t : Token} (h : st.step t = some next) (ts : List Token) :
    (t :: ts).foldlM State.step st = ts.foldlM State.step next := by
  rw [List.foldlM_cons, h]
  rfl

/-- Elements up to the closing bracket complete the array. -/
theorem foldlM_elementTokens {x : Json} {xs : List Json}
    (h : ∀ y ∈ x :: xs, Completes y.tokens y) (done : List Json) (stack : List Frame) :
    (elementTokens (x :: xs) ++ [Token.closeArray]).foldlM State.step
      (.value (.array done :: stack)) =
        some (.after (.array (done.reverse ++ x :: xs)) stack) := by
  have hx := (h x List.mem_cons_self).append
  match xs with
  | [] =>
    show (x.tokens ++ [Token.closeArray]).foldlM _ _ = _
    rw [hx, foldlM_step rfl, List.reverse_cons]
    rfl
  | y :: xs =>
    have hrest := foldlM_elementTokens fun z hz => h z (List.mem_cons_of_mem x hz)
    show (x.tokens ++ .comma :: elementTokens (y :: xs) ++ _).foldlM _ _ = _
    rw [List.append_assoc, hx, List.cons_append, foldlM_step rfl, hrest, List.reverse_cons,
      List.append_assoc]
    rfl

/-- Members up to the closing brace complete the object. -/
theorem foldlM_memberTokens {m : Literal × Json} {ms : List (Literal × Json)}
    (h : ∀ n ∈ m :: ms, Completes n.2.tokens n.2) (done : List (Literal × Json))
    (stack : List Frame) :
    (memberTokens (m :: ms) ++ [Token.closeObject]).foldlM State.step (.nextKey done stack) =
      some (.after (.object (done.reverse ++ m :: ms)) stack) := by
  obtain ⟨key, x⟩ := m
  have hx := (h (key, x) List.mem_cons_self).append
  match ms with
  | [] =>
    show (.string key :: .colon :: (x.tokens ++ [Token.closeObject])).foldlM _ _ = _
    rw [foldlM_step rfl, foldlM_step rfl, hx, foldlM_step rfl, List.reverse_cons]
    rfl
  | m :: ms =>
    have hrest := foldlM_memberTokens fun n hn => h n (List.mem_cons_of_mem (key, x) hn)
    show (.string key :: .colon :: (x.tokens ++ .comma :: memberTokens (m :: ms) ++ _)).foldlM _ _
      = _
    rw [foldlM_step rfl, foldlM_step rfl, List.append_assoc, hx, List.cons_append,
      foldlM_step rfl, hrest, List.reverse_cons, List.append_assoc]
    rfl

/-- The first element is read as the next ones are, since no value begins with a closing
bracket. -/
theorem foldlM_firstElement (x : Json) (ts : List Token) (stack : List Frame) :
    (x.tokens ++ ts).foldlM State.step (.firstElement stack) =
      (x.tokens ++ ts).foldlM State.step (.value (.array [] :: stack)) := by
  cases x <;> rfl

theorem completes_array {xs : List Json} (h : ∀ x ∈ xs, Completes x.tokens x) :
    Completes (tokens (.array xs)) (.array xs) := by
  intro stack
  show (.openArray :: (elementTokens xs ++ [Token.closeArray])).foldlM _ _ = _
  rw [foldlM_step rfl]
  match xs with
  | [] => rfl
  | x :: xs =>
    have hfirst : ∃ ts, elementTokens (x :: xs) = x.tokens ++ ts := by
      cases xs with
      | nil => exact ⟨[], (List.append_nil _).symm⟩
      | cons y ys => exact ⟨_, rfl⟩
    obtain ⟨ts, hts⟩ := hfirst
    have hread := foldlM_elementTokens h [] stack
    rw [hts, List.append_assoc] at hread ⊢
    rw [foldlM_firstElement, hread]
    rfl

theorem completes_object {ms : List (Literal × Json)} (h : ∀ m ∈ ms, Completes m.2.tokens m.2) :
    Completes (tokens (.object ms)) (.object ms) := by
  intro stack
  show (.openObject :: (memberTokens ms ++ [Token.closeObject])).foldlM _ _ = _
  rw [foldlM_step rfl]
  match ms with
  | [] => rfl
  | m :: ms =>
    have hfirst : ∃ ts, memberTokens (m :: ms) = .string m.1 :: ts := by
      cases ms <;> exact ⟨_, rfl⟩
    obtain ⟨ts, hts⟩ := hfirst
    have hread := foldlM_memberTokens h [] stack
    rw [hts, List.cons_append, foldlM_step rfl] at hread ⊢
    exact hread

theorem Whole.completes {j : Json} (h : j.Whole) : Completes j.tokens j := by
  induction h with
  | null => exact completes_singleton fun _ => rfl
  | bool b => exact completes_singleton fun _ => rfl
  | int n => exact completes_singleton fun _ => rfl
  | string l => exact completes_singleton fun _ => rfl
  | array _ ih => exact completes_array ih
  | object _ ih => exact completes_object ih

/-- A written value is read back. -/
theorem parse?_bytes {j : Json} (h : j.Whole) : parse? j.bytes = some j := by
  have hscan : Token.scan j.bytes = some j.tokens := by
    have hread := h.scans [] (fun b hb => by cases hb)
    rw [Token.scan] at hread
    simpa [bytes] using hread
  rw [parse?, hscan, Option.bind_some, ofTokens?, h.completes []]
  rfl

end OrgAccess.Json
