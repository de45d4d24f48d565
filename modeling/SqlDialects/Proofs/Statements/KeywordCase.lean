import SqlDialects.Proofs.Parser.Operations
import SqlDialects.Proofs.Statements.Outcome

/-!
# The case of keywords

Nothing that a parser does depends on the case in which its keywords are written.  The
grammar compares keywords in many places and by different means: operators and clauses by
`isKeyword`, what follows a table by its key, names of types by their uppercase form.  A
place that kept or compared the text itself would show.

This is a statement about two runs, on tokens that match one by one (`Token.Matches`): they
may lie elsewhere, and keywords may be written in another case.  That the grammar goes in
step on them is known for any pairing; what is added here is where the two runs stop.  They
have as many tokens ahead there, so they stop at one index, and whatever one of them comes
to the other does too (`StopsAlike`).
-/

namespace SqlDialects

/-! ## Matching tokens -/

namespace Cursor

variable {tokens tokens' : List Token} {i : Nat} {c c' : Cursor}

/-- Tokens that match still do with the end that is added. -/
theorem forall₂_complete (h : List.Forall₂ Token.Matches tokens tokens') :
    List.Forall₂ Token.Matches (complete tokens) (complete tokens') := by
  have hkinds : tokens.map Token.kind = tokens'.map Token.kind := by
    rw [← List.forall₂_eq_eq_eq, List.forall₂_map_left_iff, List.forall₂_map_right_iff]
    exact h.imp fun _ _ hm => hm.kind.symm
  obtain ⟨finish, hcomplete⟩ := exists_complete_eq tokens
  obtain ⟨finish', hcomplete'⟩ := exists_complete_eq tokens'
  rw [hcomplete, hcomplete', ← List.getLast?_map, ← List.getLast?_map, hkinds]
  split
  · exact h
  · exact List.rel_append h (.cons ⟨rfl, rfl, fun _ => rfl⟩ .nil)

/-- A token that is no literal that a lexer gives is not the end that was added. -/
theorem mem_of_not_intact {t : Token} (ht : t ∈ complete tokens) (hbroken : ¬t.lexeme.Intact) :
    t ∈ tokens := by
  obtain ⟨finish, hcomplete⟩ := exists_complete_eq tokens
  rw [hcomplete] at ht
  split at ht
  · exact ht
  · refine (List.mem_append.1 ht).resolve_right fun hend => hbroken ?_
    rw [List.mem_singleton.1 hend]
    exact Lexeme.intact_endOfFile

end Cursor

/-! ## Where two runs stop -/

open Cursor (StandsAt)

/-- Two runs come to the same at one index of their tokens: they give one value; or they are
rejected for one cause at tokens that match; or they break off at a literal of a form that no lexer
gives. -/
inductive Parsed.StopsAlike {α : Type} (tokens tokens' : List Token) : Parsed α → Parsed α → Prop
  | ok {a : α} {j : Nat} {c c' : Cursor} (hc : StandsAt tokens j c) (hc' : StandsAt tokens' j c') :
    StopsAlike tokens tokens' (.ok a c) (.ok a c')
  | rejected {e e' : ParseError} {j : Nat} {c c' : Cursor} (hcause : e'.cause = e.cause)
    (htoken : e.token.Matches e'.token) (hc : StandsAt tokens j c) (hc' : StandsAt tokens' j c') :
    StopsAlike tokens tokens' (.error (.rejected e) c) (.error (.rejected e') c')
  | broken {t : Token} {j : Nat} {c c' : Cursor} (ht : t ∈ tokens) (hbroken : ¬t.lexeme.Intact)
    (hc : StandsAt tokens j c) (hc' : StandsAt tokens' j c') :
    StopsAlike tokens tokens' (.error (.fault .brokenLiteral) c)
      (.error (.fault .brokenLiteral) c')

/-- The pairing of tokens that differ at most in their places and in the case of keywords. -/
def Pairing.recased : Pairing := .pointwise Token.Matches fun _ _ => id

theorem Pairing.throughout_recased : Pairing.recased.Throughout := Pairing.throughout_pointwise _

variable {α : Type} {p : Parser α} {tokens tokens' : List Token} {i : Nat} {c c' : Cursor}

/-- **A parser that goes in step stops alike**, if it gets on. -/
theorem Pairing.InStep.stopsAlike (hstep : Pairing.recased.InStep Eq p p)
    (hproceeds : ∀ G m, Proceeds G m p fun _ => False)
    (h : List.Forall₂ Token.Matches tokens tokens') (hc : StandsAt tokens i c)
    (hc' : StandsAt tokens' i c') : Parsed.StopsAlike tokens tokens' (p c) (p c') := by
  have hpairs : Pairing.recased.cursors c c' := by
    show List.Forall₂ _ c.tokens c'.tokens
    rw [hc, hc']
    exact List.forall₂_drop i (Cursor.forall₂_complete h)
  have hrun := hproceeds (· ∈ Cursor.complete tokens) _ c hc.among (Nat.lt_succ_self _)
  have hrun' := hproceeds (· ∈ Cursor.complete tokens') _ c' hc'.among (Nat.lt_succ_self _)
  have hindex : Pairing.recased.cursors (Parsed.cursor (p c)) (Parsed.cursor (p c')) →
      ∃ j, StandsAt tokens j (Parsed.cursor (p c)) ∧ StandsAt tokens' j (Parsed.cursor (p c')) := by
    intro hends
    obtain ⟨j, -, hj⟩ := hc.of_reaches hrun.reaches
    exact ⟨j, hj, hc.of_cursors hc' hpairs hends hrun'.reaches hj⟩
  have hsame := hstep.run rfl hpairs
  generalize p c = x at hrun hindex hsame
  generalize p c' = x' at hindex hsame
  cases hsame with
  | ok ha hends =>
    subst ha
    obtain ⟨j, hj, hj'⟩ := hindex hends
    exact .ok hj hj'
  | rejected ht hends =>
    obtain ⟨j, hj, hj'⟩ := hindex hends
    exact .rejected rfl ht hj hj'
  | fault hends =>
    obtain ⟨j, hj, hj'⟩ := hindex hends
    cases hrun with
    | broken _ ht hbroken => exact .broken (Cursor.mem_of_not_intact ht hbroken) hbroken hj hj'

/-- **The case of keywords is ignored.**  On tokens that differ at most in their places and in the
case of their keywords, and from one index of both, all statements, a query, an expression and a
type come to the same. -/
theorem keyword_case_is_ignored (d : Dialect) (h : List.Forall₂ Token.Matches tokens tokens')
    (hc : StandsAt tokens i c) (hc' : StandsAt tokens' i c') :
    Parsed.StopsAlike tokens tokens' (Grammar.statements d c) (Grammar.statements d c') ∧
      Parsed.StopsAlike tokens tokens' (Grammar.select d c) (Grammar.select d c') ∧
      Parsed.StopsAlike tokens tokens' (Grammar.expression d c) (Grammar.expression d c') ∧
      Parsed.StopsAlike tokens tokens' (Grammar.dataType d c) (Grammar.dataType d c') := by
  have hselect : Pairing.recased.InStep Eq (Grammar.select d) (Grammar.select d) :=
    Grammar.inStep_query Grammar.inStep_operand
  exact ⟨Pairing.throughout_recased.statements.stopsAlike
      (fun _ _ => Grammar.proceeds_statements) h hc hc',
    hselect.stopsAlike (fun _ _ => Grammar.proceeds_select.free) h hc hc',
    (Grammar.inStep_operand 0).stopsAlike (fun _ _ => (Grammar.proceeds_operand 0).free) h hc hc',
    Grammar.inStep_dataType.stopsAlike (fun _ _ => Grammar.proceeds_dataType.free) h hc hc'⟩

/-- A word that follows a table is found in any case; and a keyword that is rejected is rejected in
any case. -/
theorem keyword_case_is_ignored_final :
    let d := Dialect.builtin .clickhouse none
    let tokens : List Token :=
      [⟨.keyword, "SELECT", {}⟩, ⟨.word, "a", {}⟩, ⟨.keyword, "FROM", {}⟩, ⟨.word, "t", {}⟩,
        ⟨.keyword, "FINAL", {}⟩]
    let tokens' : List Token :=
      [⟨.keyword, "select", {}⟩, ⟨.word, "a", {}⟩, ⟨.keyword, "fRoM", {}⟩, ⟨.word, "t", {}⟩,
        ⟨.keyword, "Final", {}⟩]
    List.Forall₂ Token.Matches tokens tokens' ∧
      (∃ es c c', Grammar.statements d (.ofTokens tokens) = .ok es c ∧
        Grammar.statements d (.ofTokens tokens') = .ok es c') ∧
      ∃ e e' c c', Grammar.expression d (.ofTokens tokens) = .error (.rejected e) c ∧
        Grammar.expression d (.ofTokens tokens') = .error (.rejected e') c' ∧
        e'.expected = e.expected := by
  intro d tokens tokens'
  have hmatches : List.Forall₂ Token.Matches tokens tokens' := by
    have hkeyword : ∀ w w' key : String, w.toUpper = key → w'.toUpper = key →
        Token.Matches ⟨.keyword, w, {}⟩ ⟨.keyword, w', {}⟩ :=
      fun _ _ _ hkey hkey' => ⟨rfl, hkey'.trans hkey.symm, fun hne => absurd rfl hne⟩
    have hsame : ∀ t : Token, t.Matches t := fun _ => ⟨rfl, rfl, fun _ => rfl⟩
    exact .cons (hkeyword _ _ "SELECT" (by decide +kernel) (by decide +kernel))
      (.cons (hsame _) (.cons (hkeyword _ _ "FROM" (by decide +kernel) (by decide +kernel))
        (.cons (hsame _)
          (.cons (hkeyword _ _ "FINAL" (by decide +kernel) (by decide +kernel)) .nil))))
  obtain ⟨hstatements, -, hexpression, -⟩ := keyword_case_is_ignored d hmatches
    (Cursor.standsAt_ofTokens tokens) (Cursor.standsAt_ofTokens tokens')
  have hread : (Parsed.outcome (Grammar.statements d (.ofTokens tokens))).isOk = true := by
    decide +kernel
  have hrejected : Parsed.outcome (Grammar.expression d (.ofTokens tokens)) =
      .error (.parse ⟨.unexpected ["expression"], ⟨.keyword, "SELECT", {}⟩⟩) := by
    decide +kernel
  refine ⟨hmatches, ?_, ?_⟩
  · generalize Grammar.statements d (.ofTokens tokens) = x at hread hstatements
    generalize Grammar.statements d (.ofTokens tokens') = x' at hstatements
    cases hstatements with
    | ok => exact ⟨_, _, _, rfl, rfl⟩
    | rejected | broken => cases hread
  · generalize Grammar.expression d (.ofTokens tokens) = x at hrejected hexpression
    generalize Grammar.expression d (.ofTokens tokens') = x' at hexpression
    cases hexpression with
    | @rejected e e' _ _ _ hcause =>
      refine ⟨e, e', _, _, rfl, rfl, ?_⟩
      rw [ParseError.expected, hcause, ← ParseError.expected]
    | ok | broken => cases hrejected

end SqlDialects
