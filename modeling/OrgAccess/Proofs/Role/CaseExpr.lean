import OrgAccess.Proofs.Sql.Token
import OrgAccess.Role.CaseExpr

/-! Expressions of cases, read and evaluated. An expression that is written out is read back, if its
subject is a plain name and no literal holds a quote. The expression of the ranking is one of these,
and its value for a record is the rank of the role that the record holds. -/

namespace OrgAccess

namespace CaseExpr

open Sql

/-! ## Reading -/

def branchTokens (branch : String × Nat) : List Token :=
  [.keyword .whenWord, .text branch.1, .keyword .thenWord, .number branch.2]

def endTokens (otherwise : Nat) : List Token :=
  [.keyword .elseWord, .number otherwise, .keyword .endWord]

def tokens (e : CaseExpr) : List Token :=
  .keyword .caseWord :: .name e.subject ::
    (e.branches.flatMap branchTokens ++ endTokens e.otherwise)

/-- The branches at the front, and what follows them. -/
def takeBranches : List Token → List (String × Nat) × List Token
  | .keyword .whenWord :: .text literal :: .keyword .thenWord :: .number value :: ts =>
    let (branches, rest) := takeBranches ts
    ((literal, value) :: branches, rest)
  | ts => ([], ts)

/-- A simple CASE over a name: at least one branch, then the value of all other texts. -/
def ofTokens? : List Token → Option CaseExpr
  | .keyword .caseWord :: .name subject :: ts =>
    match takeBranches ts with
    | (branch :: branches, [.keyword .elseWord, .number otherwise, .keyword .endWord]) =>
      some ⟨subject, branch :: branches, otherwise⟩
    | _ => none
  | _ => none

/-- Read the text of a simple CASE, where some words are reserved besides its own. -/
def parse? (reserved : List String) (s : String) : Option CaseExpr :=
  (scan? reserved s.toList).bind ofTokens?

-- Nothing hangs on how the ranking is written: case, spaces and zeros are free.
example : parse? ["NULL"] "case\tRole when 'it''s' then 07 else 10 end " =
    some ⟨"Role", [("it's", 7)], 10⟩ := by decide +kernel

theorem takeBranches_append (branches : List (String × Nat)) (otherwise : Nat) :
    takeBranches (branches.flatMap branchTokens ++ endTokens otherwise) =
      (branches, endTokens otherwise) := by
  induction branches with
  | nil => rfl
  | cons branch branches ih =>
    show ((branch.1, branch.2) :: (takeBranches (branches.flatMap branchTokens ++ _)).1,
      (takeBranches (branches.flatMap branchTokens ++ _)).2) = _
    rw [ih]

theorem eq_of_takeBranches {ts rest : List Token} {branches : List (String × Nat)}
    (h : takeBranches ts = (branches, rest)) : ts = branches.flatMap branchTokens ++ rest := by
  fun_induction takeBranches ts generalizing branches rest with
  | case1 literal value ts branches' rest' heq ih =>
    cases h
    rw [ih heq]
    rfl
  | case2 ts =>
    cases h
    rfl

/-- The tokens of an expression are read as that expression, and no other tokens are. -/
theorem ofTokens?_eq_some_iff (ts : List Token) (e : CaseExpr) :
    ofTokens? ts = some e ↔ e.branches ≠ [] ∧ ts = e.tokens := by
  constructor
  · intro h
    fun_cases ofTokens? ts with
    | case1 subject ts branch branches otherwise heq =>
      rw [ofTokens?, heq] at h
      cases h
      refine ⟨List.cons_ne_nil branch branches, ?_⟩
      rw [eq_of_takeBranches heq]
      rfl
    | case2 => simp_all [ofTokens?]
    | case3 => simp_all [ofTokens?]
  · rintro ⟨hbranches, rfl⟩
    obtain ⟨branch, branches, hcons⟩ := List.exists_cons_of_ne_nil hbranches
    rw [tokens, ofTokens?, takeBranches_append, hcons]
    cases e
    subst hcons
    rfl

theorem toList_number (n : Nat) : (number n).toList = Decimal.natDigits n := String.toList_ofList

theorem toList_branchText {branch : String × Nat} (h : '\'' ∉ branch.1.toList) :
    (branchText branch).toList = spaced (branchTokens branch) := by
  simp [branchText, branchTokens, spaced, Token.spelling, Keyword.word, doubled_of_not_mem h,
    toList_number]

/-- The first space is not written. -/
theorem spaced_tokens {e : CaseExpr} (h : ∀ branch ∈ e.branches, '\'' ∉ branch.1.toList) :
    spaced e.tokens = ' ' :: e.text.toList := by
  have hbranches : spaced (e.branches.flatMap branchTokens) =
      (e.branches.map branchText).flatMap String.toList := by
    rw [spaced, List.flatMap_assoc, List.flatMap_map]
    refine List.flatMap_congr ?_
    intro branch hbranch
    exact (toList_branchText (h branch hbranch)).symm
  have hsplit : spaced e.tokens = ' ' :: (Keyword.caseWord.word.toList ++ ' ' ::
      (e.subject.toList ++ (spaced (e.branches.flatMap branchTokens) ++
        spaced (endTokens e.otherwise)))) := by
    simp [spaced, tokens, Token.spelling]
  rw [hsplit, hbranches]
  simp [text, spaced, endTokens, Token.spelling, Keyword.word, toList_number]

/-- An expression that is written out is read back. -/
theorem parse?_text {reserved : List String} {e : CaseExpr}
    (hsubject : PlainName reserved e.subject) (hbranches : e.branches ≠ [])
    (hliterals : ∀ branch ∈ e.branches, '\'' ∉ branch.1.toList) :
    parse? reserved e.text = some e := by
  have hplain : ∀ t ∈ e.tokens, t.Plain reserved := by
    simp only [tokens, endTokens, branchTokens, List.forall_mem_cons, List.forall_mem_append,
      List.forall_mem_flatMap]
    exact ⟨trivial, hsubject, fun _ _ => ⟨trivial, trivial, trivial, trivial, nofun⟩,
      trivial, trivial, trivial, nofun⟩
  have hscan : scan? reserved e.text.toList = some e.tokens := by
    rw [← scan?_spaced hplain, spaced_tokens hliterals, scan?, if_pos (by decide)]
  rw [parse?, hscan]
  exact (ofTokens?_eq_some_iff e.tokens e).2 ⟨hbranches, rfl⟩

/-! ## Evaluation -/

/-- The value of the first branch with the text as its literal. -/
def choose (held : String) (otherwise : Nat) : List (String × Nat) → Nat
  | [] => otherwise
  | (literal, value) :: branches =>
    if literal = held then value else choose held otherwise branches

/-- The value for a record, which has a text in each column. -/
def eval (e : CaseExpr) (record : String → String) : Nat :=
  choose (record e.subject) e.otherwise e.branches

/-- Going through the branches finds what a search through the ranks finds. -/
theorem choose_ranks (code : String) (otherwise : Nat) (ranks : List (Role × Nat)) :
    choose code otherwise (ranks.map fun entry => (entry.1.code, entry.2)) =
      ((ranks.find? fun entry => entry.1 = ⟨code⟩).map Prod.snd).getD otherwise := by
  induction ranks with
  | nil => rfl
  | cons entry ranks ih =>
    by_cases hcode : entry.1 = ⟨code⟩
    · simp [choose, hcode]
    · have hne : ¬ entry.1.code = code := fun heq => hcode (Role.ext heq)
      rw [List.map_cons, choose, if_neg hne, ih, List.find?_cons_of_neg (by simpa using hcode)]

end CaseExpr

namespace Role

theorem eval_rankCase (column : String) (record : String → String) :
    (rankCase column).eval record = rank ⟨record column⟩ := by
  rw [CaseExpr.eval, rankCase, CaseExpr.choose_ranks, rank]
  cases ranking.find? fun entry => entry.1 = ⟨record column⟩ <;> rfl

/-- The text of the ranking over a column, which may have any plain name, is read as an expression
of cases over that column. Its value for a record is the rank of the role whose code the record
holds there, be it a ranked one or any other text. So records come in the order of their values
just when their roles come in the order of their ranks. -/
theorem rankCase_means_rank {reserved : List String} {column : String}
    (h : Sql.PlainName reserved column) :
    ∃ e, CaseExpr.parse? reserved (rankCase column).text = some e ∧ e.subject = column ∧
      (∀ record : String → String, e.eval record = rank ⟨record column⟩) ∧
      ∀ records : List (String → String),
        records.Pairwise (fun a b => e.eval a ≤ e.eval b) ↔
          (records.map fun record => (⟨record column⟩ : Role)).Pairwise
            fun r t => r.rank ≤ t.rank := by
  have hliterals : ∀ entry ∈ ranking, '\'' ∉ entry.1.code.toList := by decide
  refine ⟨rankCase column, ?_, rfl, eval_rankCase column, ?_⟩
  · refine CaseExpr.parse?_text h (List.cons_ne_nil _ _) ?_
    exact List.forall_mem_map.2 hliterals
  · intro records
    simp only [List.pairwise_map, eval_rankCase]

/-- A column beside others. Members come with coordinators, and after the users whoever has a code
that is not ranked: one with a quote in it, and none at all. -/
theorem rankCase_means_rank_sample :
    let record (code name : String) : String := if name = "user_role" then code else "OWNER"
    Sql.PlainName ["NULL", "ROLE", "USER"] "user_role" ∧
      ∃ e, CaseExpr.parse? ["NULL", "ROLE", "USER"]
          ("CASE user_role WHEN 'OWNER' THEN 1 WHEN 'ADMIN' THEN 2 WHEN 'COORDINATOR' THEN 3" ++
            " WHEN 'MEMBER' THEN 3 WHEN 'USER' THEN 4 ELSE 5 END") = some e ∧
        e.subject = "user_role" ∧ e.eval (record "MEMBER") = 3 ∧ e.eval (record "O'WNER") = 5 ∧
        (["MEMBER", "COORDINATOR", "USER", "", "O'WNER"].map record).Pairwise
          fun a b => e.eval a ≤ e.eval b := by
  intro record
  have hplain : Sql.PlainName ["NULL", "ROLE", "USER"] "user_role" := by
    refine ⟨⟨'u', rfl, by decide⟩, List.all_eq_true.1 rfl, ?_, by decide⟩
    intro keyword
    cases keyword <;> decide
  have htext : (rankCase "user_role").text =
      "CASE user_role WHEN 'OWNER' THEN 1 WHEN 'ADMIN' THEN 2 WHEN 'COORDINATOR' THEN 3" ++
        " WHEN 'MEMBER' THEN 3 WHEN 'USER' THEN 4 ELSE 5 END" := by decide +kernel
  obtain ⟨e, hparse, hsubject, heval, horder⟩ := rankCase_means_rank hplain
  rw [htext] at hparse
  exact ⟨hplain, e, hparse, hsubject, (heval _).trans (by decide), (heval _).trans (by decide),
    (horder _).2 (by decide)⟩

end Role

end OrgAccess
