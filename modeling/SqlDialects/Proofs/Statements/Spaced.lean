import SqlDialects.Expr.Equality
import SqlDialects.Proofs.Lexing.Spaced
import SqlDialects.Proofs.Statements.Faultless

/-!
# Layout

What a text means does not depend on the blanks, the lines and the comments in it.  The
tokens of a text, written with single blanks between them, are the same tokens at other
places (`DialectName.lex_spaced`), and places are what the grammar never looks at: it
goes in step on the two lists of tokens and comes to the same statements, or to the same
rejection.
-/

namespace SqlDialects

open Grammar (nextStatement?)

/-- What an error says is wrong does not depend on a place. -/
theorem ParseError.description_congr {t t' : Token} (h : t'.lexeme = t.lexeme) (cause : Cause) :
    description ⟨cause, t'⟩ = description ⟨cause, t⟩ := by
  obtain ⟨kind, text, span⟩ := t
  obtain ⟨kind', text', span'⟩ := t'
  obtain ⟨rfl, rfl⟩ := Lexeme.mk.inj h
  rfl

/-- The pairing of tokens that differ at most in their places. -/
def Pairing.elsewhere : Pairing :=
  .pointwise (fun t t' => t'.lexeme = t.lexeme) fun _ _ h =>
    ⟨congrArg Lexeme.kind h, congrArg (fun m => m.text.toUpper) h, fun _ => congrArg Lexeme.text h⟩

variable {n : DialectName} {d : Dialect} {text text' : String} {tokens tokens' : List Token}

/-- Texts with the same lexemes are read alike, up to the places in what is rejected. -/
theorem same_of_map_lexeme (hlex : n.lexer.lex text = .ok tokens)
    (hlex' : n.lexer.lex text' = .ok tokens')
    (h : tokens'.map Token.lexeme = tokens.map Token.lexeme) :
    Pairing.elsewhere.Same Eq (Parser.many (nextStatement? d) (.ofTokens tokens))
      (Parser.many (nextStatement? d) (.ofTokens tokens')) := by
  have hthroughout : Pairing.elsewhere.Throughout := Pairing.throughout_pointwise _
  refine (Pairing.InStep.many hthroughout.nextStatement?).run hthroughout.endless ?_
  show List.Forall₂ _ _ _
  rw [Lexer.tokens_ofTokens hlex, Lexer.tokens_ofTokens hlex']
  have hpairs : List.Forall₂ (fun m m' => m' = m) (tokens.map Token.lexeme)
      (tokens'.map Token.lexeme) := by
    rw [h]
    exact List.forall₂_same.2 fun _ _ => rfl
  rwa [List.forall₂_map_left_iff, List.forall₂_map_right_iff] at hpairs

/-- **Layout changes nothing.**  The tokens of a text, written with single blanks between them, are
read as the same tokens, and a dialect reads in them the statements that it reads in the text, or
rejects them in the same words. -/
theorem parse_spaced (name : DialectName) (config? : Option Setting) {text : String}
    {tokens : List Token}
    (h : ((Dialect.builtin name config?).lex text).outcome = .ok tokens) :
    (∃ tokens', ((Dialect.builtin name config?).lex (spaced tokens)).outcome = .ok tokens' ∧
      tokens'.map Token.lexeme = tokens.map Token.lexeme) ∧
    ((∃ es, ((Dialect.builtin name config?).parse text).outcome = .ok es ∧
        ((Dialect.builtin name config?).parse (spaced tokens)).outcome = .ok es) ∨
      ∃ e e', ((Dialect.builtin name config?).parse text).outcome = .error (.parse e) ∧
        ((Dialect.builtin name config?).parse (spaced tokens)).outcome = .error (.parse e') ∧
        e'.description = e.description ∧ e'.expected = e.expected ∧
        e'.token.text = e.token.text) := by
  have hd := name.makes_builtin config?
  generalize Dialect.builtin name config? = d at h hd ⊢
  have hlex := (Dialect.outcome_lex_eq_ok hd).1 h
  obtain ⟨tokens', hlex', hlexemes⟩ := DialectName.lex_spaced hlex
  refine ⟨⟨tokens', (Dialect.outcome_lex_eq_ok hd).2 hlex', hlexemes⟩, ?_⟩
  have hsame := same_of_map_lexeme (d := d) hlex hlex' hlexemes
  have hproceeds := Grammar.proceeds_many_nextStatement? (d := d) _
    (DialectName.intact_ofTokens hlex) (Nat.lt_succ_self _)
  generalize hrun : Parser.many (nextStatement? d) (.ofTokens tokens) = x at hsame hproceeds
  generalize hrun' : Parser.many (nextStatement? d) (.ofTokens tokens') = x' at hsame
  cases hsame with
  | @ok es _ c c' heq _ =>
    subst heq
    exact Or.inl ⟨es, (Dialect.outcome_parse_eq_ok hd).2 ⟨tokens, c, hlex, hrun⟩,
      (Dialect.outcome_parse_eq_ok hd).2 ⟨tokens', c', hlex', hrun'⟩⟩
  | @rejected cause t t' c c' ht _ =>
    exact Or.inr ⟨⟨cause, t⟩, ⟨cause, t'⟩,
      (Dialect.outcome_parse_eq_parse hd).2 ⟨tokens, c, hlex, hrun⟩,
      (Dialect.outcome_parse_eq_parse hd).2 ⟨tokens', c', hlex', hrun'⟩,
      ParseError.description_congr ht cause, rfl, congrArg Lexeme.text ht⟩
  | fault _ => exact absurd rfl (hproceeds.ne_fault _ _)

/-- Without its comments and its lines a text still keeps two signs apart, which would make a
comment, and the mark of a comment in a string. -/
theorem parse_spaced_comments :
    let d := Dialect.builtin .clickhouse none
    let text := "a--b\n- -0x1F/* ' */||\t'--'"
    let tokens : List Token :=
      [⟨.word, "a", ⟨0, 1, 1, 1⟩⟩, ⟨.minus, "-", ⟨5, 6, 2, 1⟩⟩, ⟨.minus, "-", ⟨7, 8, 2, 3⟩⟩,
        ⟨.hexStringLiteral, "0x1F", ⟨8, 12, 2, 4⟩⟩, ⟨.concat, "||", ⟨19, 21, 2, 15⟩⟩,
        ⟨.stringLiteral, "'--'", ⟨22, 26, 2, 18⟩⟩, .endOfFile ⟨26, 26, 2, 22⟩]
    let e : Expr :=
      .binary
        (.binary (.identifier ⟨"a", false⟩) .minus (.unary .minus (.literal (.hex "1F"))))
        .stringConcat (.literal (.string "--"))
    (d.lex text).outcome = .ok tokens ∧ spaced tokens = "a - - 0x1F || '--'" ∧
      (d.parse (spaced tokens)).outcome = .ok [e] := by
  intro d text tokens e
  have hlex : (d.lex text).outcome = .ok tokens := by decide +kernel
  have hparse : (d.parse text).outcome = .ok [e] := by decide +kernel
  refine ⟨hlex, by decide +kernel, ?_⟩
  obtain ⟨-, ⟨es, hes, hspaced⟩ | ⟨e', _, he', -⟩⟩ := parse_spaced .clickhouse none hlex
  · rw [hparse] at hes
    rwa [Except.ok.inj hes]
  · rw [hparse] at he'
    cases he'

end SqlDialects
