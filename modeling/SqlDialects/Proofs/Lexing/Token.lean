import SqlDialects.Expr.Operator
import SqlDialects.Proofs.Lexing.Numeral
import SqlDialects.Proofs.Lexing.Quoted

/-!
# The remaining tokens

Numerals, hexadecimal and binary literals, brackets, commas and operators: for
each what it is taken as, and before what.  Only a few of them look beyond their
own text.  A point is not one before a digit, which would make a numeral of it,
and a minus is not one before another, which would make a comment.  Operators are
stated before the blank that always follows them where they are written.
-/

namespace SqlDialects

namespace Clickhouse

/-- The rule for hexadecimal literals. -/
def hexRule : LexicalRule := ⟨"hex_literal", .hexStringLiteral, .regex hexLiteral⟩

/-- The rule for binary literals. -/
def bitRule : LexicalRule := ⟨"bit_literal", .bitStringLiteral, .regex bitLiteral⟩

end Clickhouse

namespace DialectName

variable (n : DialectName)

/-! ## Numerals -/

/-- The rule for numerals. -/
def numeralRule : LexicalRule := ⟨"numeric_literal", .numericLiteral, .numeral⟩

/-- An expression that matches before no numeral keeps out of the way of the rule for them. -/
theorem exclude_numeralRule {name : String} {kind : TokenKind} {r : Regex}
    (h : ∀ {s x}, Lexical.splitNumeral? s = some x → r.split? s = none) :
    LexicalRule.Exclude ⟨name, kind, .regex r⟩ numeralRule := by
  intro s
  show Lexical.Reaction.ofSplit? (r.split? s) = none ∨
    Lexical.Reaction.ofSplit? (Lexical.splitNumeral? s) = none
  cases hnumeral : Lexical.splitNumeral? s with
  | none => exact .inr rfl
  | some x =>
    rw [h hnumeral]
    exact .inl rfl

/-- The rules before the one for numerals keep out of its way. -/
theorem exclude_of_mem_rulesBefore_numeralRule :
    ∀ r ∈ Lexer.rulesBefore n.rules numeralRule.name, r.Exclude numeralRule := by
  have hrules : ∀ r ∈ Lexer.rulesBefore n.rules numeralRule.name,
      r = Clickhouse.hexRule ∨ r = Clickhouse.bitRule ∨
        r.pattern.apart numeralRule.pattern = true := by
    cases n <;> decide
  intro r hr
  rcases hrules r hr with rfl | rfl | hapart
  · exact exclude_numeralRule Clickhouse.split?_hexLiteral_of_splitNumeral?
  · exact exclude_numeralRule Clickhouse.split?_bitLiteral_of_splitNumeral?
  · exact LexicalRule.exclude_of_apart hapart

/-- **A numeral is taken whole**, if nothing continues it. -/
theorem takes_numeral {t : List Char} (ht : Lexical.isNumeral t = true) :
    n.lexer.Takes Lexical.EndsNumeral t .numericLiteral := by
  intro rest hrest
  have hreact : numeralRule.react (t ++ rest) = some (.matched t rest) := by
    show Lexical.Reaction.ofSplit? (Lexical.splitNumeral? (t ++ rest)) = _
    rw [Lexical.splitNumeral?_of_isNumeral ht hrest]
    cases t with
    | nil => cases ht
    | cons d t => rfl
  refine ⟨numeralRule, Lexer.firstReaction?_of_passed ?_ ?_ hreact, rfl⟩
  · cases n <;> rfl
  · exact fun r hr => (n.exclude_of_mem_rulesBefore_numeralRule r hr).react_eq_none hreact

/-! ## Hexadecimal and binary literals -/

theorem takes_hex {mark : Char} (hmark : mark = 'x' ∨ mark = 'X') {digits : List Char}
    (h : Clickhouse.isDigits Clickhouse.hexDigit digits = true) :
    clickhouse.lexer.Takes (Clickhouse.EndsDigits Clickhouse.hexDigit) ('0' :: mark :: digits)
      .hexStringLiteral := by
  intro rest hrest
  have hopens : ∀ r ∈ Lexer.rulesBefore Clickhouse.rules Clickhouse.hexRule.name,
      r.pattern.opens '0' = false := by decide
  refine ⟨Clickhouse.hexRule, Lexer.firstReaction?_of_passed rfl ?_ ?_, rfl⟩
  · exact fun r hr => LexicalRule.react_of_opens_eq_false (hopens r hr) _
  · show Lexical.Reaction.ofSplit? (Clickhouse.hexLiteral.split? _) = _
    rw [Clickhouse.split?_hexLiteral hmark h hrest]
    rfl

theorem takes_bits {digits : List Char} (h : Clickhouse.isDigits Clickhouse.bit digits = true) :
    clickhouse.lexer.Takes (Clickhouse.EndsDigits Clickhouse.bit) ('0' :: 'b' :: digits)
      .bitStringLiteral := by
  intro rest hrest
  have hopens : ∀ r ∈ Lexer.rulesBefore Clickhouse.rules Clickhouse.bitRule.name,
      r = Clickhouse.hexRule ∨ r.pattern.opens '0' = false := by decide
  refine ⟨Clickhouse.bitRule, Lexer.firstReaction?_of_passed rfl ?_ ?_, rfl⟩
  · intro r hr
    rcases hopens r hr with rfl | hno
    · rfl
    · exact LexicalRule.react_of_opens_eq_false hno _
  · show Lexical.Reaction.ofSplit? (Clickhouse.bitLiteral.split? _) = _
    rw [Clickhouse.split?_bitLiteral h hrest]
    rfl

/-! ## Brackets, commas and signs -/

/-- Whatever follows. -/
def Anything (_ : Option Char) : Prop := True

theorem takes_startBracket_of_rules {l : Lexer} (hl : l.rules = n.rules) :
    l.Takes Anything ['('] .startBracket := by
  intro rest _
  refine ⟨⟨"start_bracket", .startBracket, .text "("⟩, ?_, rfl⟩
  rw [hl]
  cases n <;> rfl

theorem takes_startBracket : n.lexer.Takes Anything ['('] .startBracket :=
  n.takes_startBracket_of_rules rfl

theorem takes_endBracket : n.lexer.Takes Anything [')'] .endBracket := by
  intro rest _
  cases n <;> exact ⟨_, rfl, rfl⟩

theorem takes_comma : n.lexer.Takes Anything [','] .comma := by
  intro rest _
  cases n <;> exact ⟨_, rfl, rfl⟩

theorem takes_plus : n.lexer.Takes Anything ['+'] .plus := by
  intro rest _
  cases n <;> exact ⟨_, rfl, rfl⟩

/-- The rule for comments that run to the end of their line. -/
def lineCommentRule : LexicalRule :=
  ⟨"inline_comment", .inlineComment, .regex (Ansi.toEndOfLine "--")⟩

/-- The rule for the minus sign. -/
def minusRule : LexicalRule := ⟨"minus", .minus, .text "-"⟩

/-- A minus is taken as one before anything but another. -/
theorem takes_minus : n.lexer.Takes (fun o => o ≠ some '-') ['-'] .minus := by
  intro rest hrest
  have hcomment : lineCommentRule.react ('-' :: rest) = none := by
    cases rest with
    | nil => rfl
    | cons c rest =>
      have hc : ((CharClass.only '-').contains c) = false := by
        rw [CharClass.contains_only, beq_eq_false_iff_ne]
        exact fun h => hrest (congrArg some h)
      have hsplit : (Ansi.toEndOfLine "--").split? ('-' :: c :: rest) =
          if (CharClass.only '-').contains c then _ else none := rfl
      rw [hc, if_neg Bool.false_ne_true] at hsplit
      show Lexical.Reaction.ofSplit? ((Ansi.toEndOfLine "--").split? ('-' :: c :: rest)) = none
      rw [hsplit]
      rfl
  have hopens : ∀ r ∈ Lexer.rulesBefore n.rules minusRule.name,
      r = lineCommentRule ∨ r.pattern.opens '-' = false := by
    cases n <;> decide
  refine ⟨minusRule, Lexer.firstReaction?_of_passed ?_ ?_ rfl, rfl⟩
  · cases n <;> rfl
  · intro r hr
    rcases hopens r hr with rfl | hno
    · exact hcomment
    · exact LexicalRule.react_of_opens_eq_false hno _

/-- The rule for the point. -/
def dotRule : LexicalRule := ⟨"dot", .dot, .text "."⟩

/-- A point is taken as one before anything but a digit. -/
theorem takes_dot :
    n.lexer.Takes (fun o => ∀ c, o = some c → c.isDigit = false) ['.'] .dot := by
  intro rest hrest
  have hdigits := Lexical.splitDigits_append (t := [])
    (fun c hc => absurd hc List.not_mem_nil) hrest
  have hnumeral : numeralRule.react ('.' :: rest) = none := by
    have hsome : Lexical.splitSomeDigits? rest = none := by
      rw [Lexical.splitSomeDigits?, ← List.nil_append rest, hdigits]
      rfl
    have hmantissa : Lexical.splitMantissa? ('.' :: rest) = none := by
      rw [Lexical.splitMantissa?, if_pos rfl, hsome]
      rfl
    show Lexical.Reaction.ofSplit? (Lexical.splitNumeral? ('.' :: rest)) = none
    rw [Lexical.splitNumeral?, hmantissa]
    rfl
  have hopens : ∀ r ∈ Lexer.rulesBefore n.rules dotRule.name,
      r = numeralRule ∨ r.pattern.opens '.' = false := by
    cases n <;> decide
  refine ⟨dotRule, Lexer.firstReaction?_of_passed ?_ ?_ rfl, rfl⟩
  · cases n <;> rfl
  · intro r hr
    rcases hopens r hr with rfl | hno
    · exact hnumeral
    · exact LexicalRule.react_of_opens_eq_false hno _

/-! ## Keywords and operators -/

/-- A word that standard SQL reserves is a keyword in every dialect. -/
theorem wordKind_of_mem {w : String} (hw : w ∈ Ansi.reservedWords) : n.wordKind w = .keyword := by
  have hall : ∀ w ∈ Ansi.reservedWords, n.wordKind w = .keyword := by
    cases n <;> decide +kernel
  exact hall w hw

end DialectName

end SqlDialects
