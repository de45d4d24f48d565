import SqlDialects.Proofs.Lexing.Offsets
import SqlDialects.Proofs.Parser.GrammarProceeds
import SqlDialects.Proofs.Parser.Within
import SqlDialects.Proofs.Rendering.Unwritable
import SqlDialects.Proofs.Statements.Outcome

/-!
# No text is a fault

A text may have no tokens, its tokens may make no statement, and a statement may have
no form in another dialect.  All of these are answers.  What no text brings about is a
fault: that a slice is cut through a character or past an end, that a literal turns out
shorter than its quotes, that a token is looked for where there is none, or that a
parser goes round without getting on.

The reasons are spread over the development and come together here.  Slices are safe
because a scanner passes whole characters (`Lexical.quotedEnd?_eq`), literals because
of the rules that they come from (`DialectName.intact_of_lex`), and the grammar because
it takes a token before it repeats itself (`Grammar.proceeds_statement`).
-/

namespace SqlDialects

open Traced (FailsOnly)

variable {α : Type} {n : DialectName} {d : Dialect} {text : String}

/-- A cursor on the tokens of a text is among intact ones, and the last is the end. -/
theorem DialectName.intact_ofTokens {tokens : List Token} (h : n.lexer.lex text = .ok tokens) :
    (Cursor.ofTokens tokens).Intact where
  tokens := by
    rw [Lexer.tokens_ofTokens h]
    exact intact_of_lex h
  ends := by
    rw [Lexer.tokens_ofTokens h]
    obtain ⟨front, finish, rfl, -⟩ := n.exists_front_of_lex h
    rw [List.getLast?_concat]
    rfl

/-- A parser that gets on does not fail on a text for a fault. -/
theorem DialectName.read_ne_fault {p : Parser α} {V : α → Prop}
    (hp : ∀ m, Proceeds (·.lexeme.Intact) m p V) (text : String) (f : Fault) :
    n.lexer.read p text ≠ .error (.fault f) := by
  intro h
  obtain ⟨tokens, c, hlex, hrun⟩ := Lexer.read_eq_fault.1 h
  exact (hp _ _ (intact_ofTokens hlex) (Nat.lt_succ_self _)).ne_fault f c hrun

/-- An error that is no fault. -/
def SqlError.IsAnswer : SqlError → Prop
  | .fault _ => False
  | _ => True

namespace Dialect

theorem failsOnly_lex (hd : n.Makes d) (text : String) :
    (d.lex text).FailsOnly SqlError.IsAnswer := by
  intro e he
  rw [outcome_lex hd] at he
  cases hlex : n.lexer.lex text <;> rw [hlex] at he <;> cases he
  trivial

/-- What is read by a parser that gets on is an answer. -/
theorem failsOnly_of_read {x : Traced SqlError α} {p : Parser α} {V : α → Prop}
    (hp : ∀ m, Proceeds (·.lexeme.Intact) m p V) (hx : x.outcome = n.lexer.read p text) :
    x.FailsOnly SqlError.IsAnswer := by
  intro e he
  cases e with
  | fault f => exact n.read_ne_fault hp text f (hx.symm.trans he)
  | _ => trivial

theorem failsOnly_parse (hd : n.Makes d) (text : String) :
    (d.parse text).FailsOnly SqlError.IsAnswer :=
  failsOnly_of_read (fun _ => Grammar.proceeds_many_nextStatement?) (outcome_parse hd text)

theorem failsOnly_parseOne (hd : n.Makes d) (text : String) :
    (d.parseOne text).FailsOnly SqlError.IsAnswer :=
  failsOnly_of_read (fun _ => Grammar.proceeds_onlyStatement) (outcome_parseOne hd text)

/-- Whatever the dialect, an expression is written, or a node is not supported. -/
theorem failsOnly_write (d : Dialect) (e : Expr) : (d.write e).FailsOnly SqlError.IsAnswer := by
  intro e' he
  rw [write, Traced.outcome_mapError] at he
  cases hrender : (d.render e).outcome <;> rw [hrender] at he <;> cases he
  trivial

theorem failsOnly_translate (hd : n.Makes d) (target : Dialect) (text : String) :
    (translate d target text).FailsOnly SqlError.IsAnswer := by
  refine (FailsOnly.note _).bind fun _ => (failsOnly_parse hd text).bind fun es => ?_
  refine FailsOnly.all fun x hx => ?_
  obtain ⟨e, -, rfl⟩ := List.mem_map.1 hx
  exact target.failsOnly_write e

end Dialect

/-- **No text is a fault.**  Whatever the text and the dialects, cutting it into tokens, reading it
and translating it end in a value or an answer.  On the way every slice is one: what is left behind
a match begins at a character, and so does what a scanner for quotes looks at; the literals among
the tokens are as long as what is taken off them; and wherever a cursor has come to, and however
far it looks ahead, it finds the token at an index that there is. -/
theorem never_faults (source target : DialectName) (config? config'? : Option Setting)
    (text : String) :
    ((Dialect.builtin source config?).lex text).FailsOnly SqlError.IsAnswer ∧
    ((Dialect.builtin source config?).parse text).FailsOnly SqlError.IsAnswer ∧
    ((Dialect.builtin source config?).parseOne text).FailsOnly SqlError.IsAnswer ∧
    (translate (Dialect.builtin source config?) (Dialect.builtin target config'?) text).FailsOnly
      SqlError.IsAnswer ∧
    (∀ es s rule t rest, Lexer.Run source.rules text.toList es s →
      Lexer.ReactsFirst source.rules s rule (.matched t rest) →
      Text.splitAtByte? (Text.byteLength t) s = some (t, rest)) ∧
    (∀ rule ∈ source.rules, ∀ opening closing escape,
      rule.pattern = .quoted opening closing escape → ∀ s,
        Lexical.quotedEnd? opening closing escape s = (rule.react s).map .ofReaction ∧
        Lexical.quotedEnd? opening closing escape s ≠ some .misplaced) ∧
    ∀ tokens, ((Dialect.builtin source config?).lex text).outcome = .ok tokens →
      (∀ t ∈ tokens, t.lexeme.Intact) ∧
      ∀ k i, tokens[min (k + i) (tokens.length - 1)]? =
        some ((Cursor.advance^[k] (.ofTokens tokens)).peek i) := by
  have hd := source.makes_builtin config?
  refine ⟨Dialect.failsOnly_lex hd text, Dialect.failsOnly_parse hd text,
    Dialect.failsOnly_parseOne hd text, Dialect.failsOnly_translate hd _ text,
    fun _ _ _ _ _ _ hfirst => hfirst.splitAtByte?_eq, ?_, fun tokens hlex => ?_⟩
  · intro rule _ opening closing escape hpattern s
    refine ⟨?_, Lexical.quotedEnd?_ne_misplaced opening closing escape s⟩
    rw [LexicalRule.react, hpattern]
    exact Lexical.quotedEnd?_eq opening closing escape s
  · have hlex := (Dialect.outcome_lex_eq_ok hd).1 hlex
    refine ⟨source.intact_of_lex hlex, fun k i => ?_⟩
    have htokens := Lexer.tokens_ofTokens hlex
    obtain ⟨front, finish, hfront, hkinds⟩ := source.exists_front_of_lex hlex
    have hindex := Cursor.getElem?_advance k i (htokens.trans hfront) hkinds rfl
    have hlength : (Cursor.ofTokens tokens).remaining = tokens.length - 1 := by
      rw [← congrArg List.length htokens, Cursor.length_tokens, Nat.add_sub_cancel]
    rwa [htokens, hlength] at hindex

/-- A string whose character takes two bytes, digits behind a mark, and a cursor that was sent on
past the end and looks further still. -/
theorem never_faults_literals :
    let d := Dialect.builtin .clickhouse none
    let tokens : List Token :=
      [⟨.stringLiteral, "'é'", ⟨0, 4, 1, 1⟩⟩, ⟨.equals, "=", ⟨5, 6, 1, 5⟩⟩,
        ⟨.hexStringLiteral, "0x1F", ⟨7, 11, 1, 7⟩⟩, ⟨.endOfFile, "", ⟨11, 11, 1, 11⟩⟩]
    (d.lex "'é' = 0x1F").outcome = .ok tokens ∧ (∀ t ∈ tokens, t.lexeme.Intact) ∧
      tokens[3]? = some ((Cursor.advance^[5] (.ofTokens tokens)).peek 2) := by
  intro d tokens
  have hlex : (d.lex "'é' = 0x1F").outcome = .ok tokens := by decide +kernel
  obtain ⟨-, -, -, -, -, -, htokens⟩ := never_faults .clickhouse .ansi none none "'é' = 0x1F"
  obtain ⟨hintact, hindex⟩ := htokens tokens hlex
  exact ⟨hlex, hintact, hindex 5 2⟩

end SqlDialects
