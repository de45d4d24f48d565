import SqlDialects.Proofs.Lexing.Behind
import SqlDialects.Proofs.Lexing.Spelling

/-!
# Tokens with blanks between them

Where a token ends depends on what stands behind it, and which rule takes it on what
stands in the text at all.  But before a blank every token is taken as it was taken
before whatever it was found before: words, numerals and digits because a blank is no
more of them, literals between quotes because a blank is no quote, and marks because no
longer one has a blank in it.  So each token spells itself (`spells_of_lex`), and the
texts of the tokens of a text, with blanks between them, are cut into the same tokens
(`lex_spaced`).

All that has to be known about the rules of the built-in dialects is said at once, in
`DialectName.rule_cases`, and there is one lemma for each case of it.
-/

namespace SqlDialects

namespace DialectName

variable {n : DialectName} {r : LexicalRule} {e : Element} {s rest : List Char}

/-! ## The rules -/

/-- The tokens of a fixed text. -/
def marks : List Lexeme :=
  BinaryOperator.all.map Lexeme.operator ++
    [⟨.notEquals, "!="⟩, .dot, .comma, .startBracket, .endBracket, ⟨.semicolon, ";"⟩]

/-- The rule for names in double quotes. -/
def doubleQuoteRule : LexicalRule := ⟨"double_quote", .quotedIdentifier, .quoted '"' '"' none⟩

/-- The rule for a token is one of these. -/
theorem rule_cases (hr : r ∈ n.rules) (htrivia : r.kind.isTrivia = false) :
    r = wordRule ∨ r = numeralRule ∨
      (n = .clickhouse ∧ (r = Clickhouse.hexRule ∨ r = Clickhouse.bitRule)) ∨
      (r = n.stringRule ∨ r = doubleQuoteRule ∨ r = Bigquery.backQuote) ∨
      ∃ m ∈ marks, r.kind = m.kind ∧ m.kind ≠ .word ∧ r.pattern = .text m.text := by
  revert r
  cases n <;> decide +kernel

/-- Whatever the quotes of a rule, a blank, a comma and a bracket are none. -/
theorem exists_quotesWith (hr : r ∈ n.rules)
    (h : r = n.stringRule ∨ r = doubleQuoteRule ∨ r = Bigquery.backQuote) :
    ∃ quote escape, n.QuotesWith r quote escape ∧ ∀ o, Closes o → o ≠ some quote := by
  rcases h with rfl | rfl | rfl
  · exact ⟨_, _, n.quotesWith_stringRule,
      Closes.forall (by decide) (by decide) (by decide) (by decide)⟩
  · refine ⟨'"', none, ?_, Closes.forall (by decide) (by decide) (by decide) (by decide)⟩
    cases n <;> exact ⟨rfl, by decide, by decide, by decide, by decide⟩
  · refine ⟨'\x60', none, ?_, Closes.forall (by decide) (by decide) (by decide) (by decide)⟩
    cases n with
    | ansi => exact absurd hr (by decide)
    | bigquery | clickhouse => exact ⟨rfl, by decide, by decide, by decide, by decide⟩

/-! ## The tokens -/

/-- What a rule for other tokens than words takes, spells itself if the rule takes it before all
that may follow a part. -/
theorem spells_of_takes_text {F : Option Char → Prop} (hkind : e.rule.kind ≠ .word)
    (h : n.lexer.Takes F e.text e.rule.kind) (hF : ∀ o, Closes o → F o)
    (htrivia : e.rule.kind.isTrivia = false) :
    n.lexer.Spells (.ofList e.text) [⟨n.lexer.kindOf e, .ofList e.text⟩] := by
  rw [← String.toList_ofList (l := e.text)] at h
  rw [Lexer.kindOf_of_ne_word hkind]
  exact spells_of_takes h hF htrivia

theorem spells_of_reactWord (hr : e.rule = wordRule)
    (h : e.rule.react s = some (.matched e.text rest)) :
    n.lexer.Spells (.ofList e.text) [⟨n.lexer.kindOf e, .ofList e.text⟩] := by
  rw [hr] at h
  have hword := isWord_of_react h
  rw [← String.toList_ofList (l := e.text)] at hword
  have hkind : n.lexer.kindOf e = n.wordKind (.ofList e.text) := by
    unfold Lexer.kindOf wordKind
    simp only [hr, wordRule, true_and]
  rw [hkind]
  exact spells_word hword

theorem spells_of_reactNumeral (hr : e.rule = numeralRule)
    (h : e.rule.react s = some (.matched e.text rest)) :
    n.lexer.Spells (.ofList e.text) [⟨n.lexer.kindOf e, .ofList e.text⟩] := by
  have hkind : e.rule.kind = .numericLiteral := congrArg LexicalRule.kind hr
  rw [hr] at h
  have hnumeral := Lexical.isNumeral_of_splitNumeral? (Lexical.of_ofSplit?_eq_matched h).1
  have htakes := n.takes_numeral hnumeral
  rw [← hkind] at htakes
  exact spells_of_takes_text (by rw [hkind]; decide) htakes endsNumeral_of_closes (hkind ▸ rfl)

theorem spells_of_reactHex (hr : e.rule = Clickhouse.hexRule)
    (h : e.rule.react s = some (.matched e.text rest)) :
    clickhouse.lexer.Spells (.ofList e.text) [⟨clickhouse.lexer.kindOf e, .ofList e.text⟩] := by
  have hkind : e.rule.kind = .hexStringLiteral := congrArg LexicalRule.kind hr
  rw [hr] at h
  obtain ⟨mark, digits, htext, hmark, hdigits⟩ :=
    Clickhouse.exists_of_split?_hexLiteral (Lexical.of_ofSplit?_eq_matched h).1
  have htakes := takes_hex hmark hdigits
  rw [← htext, ← hkind] at htakes
  exact spells_of_takes_text (by rw [hkind]; decide) htakes (endsDigits_of_closes (by decide))
    (hkind ▸ rfl)

theorem spells_of_reactBits (hr : e.rule = Clickhouse.bitRule)
    (h : e.rule.react s = some (.matched e.text rest)) :
    clickhouse.lexer.Spells (.ofList e.text) [⟨clickhouse.lexer.kindOf e, .ofList e.text⟩] := by
  have hkind : e.rule.kind = .bitStringLiteral := congrArg LexicalRule.kind hr
  rw [hr] at h
  obtain ⟨digits, htext, hdigits⟩ :=
    Clickhouse.exists_of_split?_bitLiteral (Lexical.of_ofSplit?_eq_matched h).1
  have htakes := takes_bits hdigits
  rw [← htext, ← hkind] at htakes
  exact spells_of_takes_text (by rw [hkind]; decide) htakes (endsDigits_of_closes (by decide))
    (hkind ▸ rfl)

theorem spells_mark {m : Lexeme} (hm : m ∈ marks) : n.lexer.Spells m.text [m] := by
  rcases List.mem_append.1 hm with hoperator | hother
  · obtain ⟨op, -, rfl⟩ := List.mem_map.1 hoperator
    have htext : (Lexeme.operator op).text = op.symbol := by cases op <;> rfl
    rw [htext]
    exact spells_operator op
  · have hunequal : n.lexer.Takes Anything "!=".toList .notEquals := by
      intro rest _
      cases n <;> exact ⟨_, rfl, rfl⟩
    have hdot : ∀ o, Closes o → ∀ c, o = some c → c.isDigit = false := by
      refine Closes.forall ?_ ?_ ?_ ?_ <;> simp
    simp only [List.mem_cons, List.not_mem_nil, or_false] at hother
    rcases hother with rfl | rfl | rfl | rfl | rfl | rfl
    · exact spells_of_takes hunequal (fun _ _ => trivial) rfl
    · exact spells_of_takes n.takes_dot hdot rfl
    · exact spells_of_takes n.takes_comma (fun _ _ => trivial) rfl
    · exact spells_of_takes n.takes_startBracket (fun _ _ => trivial) rfl
    · exact spells_of_takes n.takes_endBracket (fun _ _ => trivial) rfl
    · exact spells_of_takes n.takes_semicolon (fun _ _ => trivial) rfl

theorem spells_of_reactMark {m : Lexeme} (hm : m ∈ marks) (hkind : e.rule.kind = m.kind)
    (hword : m.kind ≠ .word) (hpattern : e.rule.pattern = .text m.text)
    (h : e.rule.react s = some (.matched e.text rest)) :
    n.lexer.Spells (.ofList e.text) [⟨n.lexer.kindOf e, .ofList e.text⟩] := by
  have hsame : n.lexer.kindOf e = m.kind :=
    (Lexer.kindOf_of_ne_word (hkind ▸ hword)).trans hkind
  have htext : e.text = m.text.toList := by
    rw [LexicalRule.react, hpattern] at h
    obtain ⟨_, hmatched⟩ := Lexical.Pattern.eq_of_react_text h
    exact (Lexical.Reaction.matched.inj hmatched).1
  rw [hsame, htext, String.ofList_toList]
  exact spells_mark hm

theorem spells_of_reactQuoted {quote : Char} {escape : Option Char}
    (hquotes : n.QuotesWith e.rule quote escape) (hcloses : ∀ o, Closes o → o ≠ some quote)
    (htrivia : e.rule.kind.isTrivia = false)
    (h : e.rule.react s = some (.matched e.text rest)) :
    n.lexer.Spells (.ofList e.text) [⟨n.lexer.kindOf e, .ofList e.text⟩] := by
  rw [LexicalRule.react, hquotes.pattern] at h
  obtain ⟨body, htext, us, hus, rfl, -⟩ := Lexical.exists_body_of_reactQuoted h
  have htakes := hquotes.takes hus
  rw [← htext] at htakes
  exact spells_of_takes_text hquotes.kind htakes hcloses htrivia

/-- **Whatever a rule takes spells itself.** -/
theorem spells_of_react (hrule : e.rule ∈ n.rules) (htrivia : e.rule.kind.isTrivia = false)
    (h : e.rule.react s = some (.matched e.text rest)) :
    n.lexer.Spells (.ofList e.text) [⟨n.lexer.kindOf e, .ofList e.text⟩] := by
  rcases rule_cases hrule htrivia with
    hr | hr | ⟨rfl, hr | hr⟩ | hr | ⟨m, hm, hkind, hword, hpattern⟩
  · exact spells_of_reactWord hr h
  · exact spells_of_reactNumeral hr h
  · exact spells_of_reactHex hr h
  · exact spells_of_reactBits hr h
  · obtain ⟨quote, escape, hquotes, hcloses⟩ := exists_quotesWith hrule hr
    exact spells_of_reactQuoted hquotes hcloses htrivia h
  · exact spells_of_reactMark hm hkind hword hpattern h

/-- **Every token of a text but the end spells itself.** -/
theorem spells_of_lex {text : String} {tokens : List Token} (h : n.lexer.lex text = .ok tokens) :
    ∀ t ∈ tokens, t.kind ≠ .endOfFile → n.lexer.Spells t.text [t.lexeme] := by
  have hall : ∀ t ∈ tokens, t.lexeme.kind ≠ .endOfFile →
      n.lexer.Spells t.lexeme.text [t.lexeme] :=
    forall_lexeme_of_lex (P := fun m => m.kind ≠ .endOfFile → n.lexer.Spells m.text [m])
      (fun hend => absurd rfl hend) (fun hrule htrivia _ _ hreact _ =>
        spells_of_react hrule htrivia hreact) h
  exact hall

end DialectName

/-- The texts of tokens, their end apart, with blanks between them. -/
def spaced (tokens : List Token) : String :=
  String.intercalate " " (tokens.dropLast.map Token.text)

/-- **With blanks between them the tokens of a text are the same tokens**, their places apart. -/
theorem DialectName.lex_spaced {n : DialectName} {text : String} {tokens : List Token}
    (h : n.lexer.lex text = .ok tokens) :
    ∃ tokens', n.lexer.lex (spaced tokens) = .ok tokens' ∧
      tokens'.map Token.lexeme = tokens.map Token.lexeme := by
  obtain ⟨front, finish, rfl, hfront⟩ := n.exists_front_of_lex h
  have hspells : ∀ t ∈ front, n.lexer.Spells t.text [t.lexeme] := fun t ht =>
    spells_of_lex h t (List.mem_append_left _ ht) (hfront t ht)
  have hcuts := cuts_spaces hspells
  have hlexemes := hcuts.lexemes?_eq (Or.inl rfl)
  obtain ⟨tokens', hlex, htokens⟩ := Lexer.lexemes?_eq_some.1 hlexemes
  refine ⟨tokens', ?_, ?_⟩
  · rw [spaced, List.dropLast_concat]
    exact hlex
  · rw [htokens, List.map_append, ← List.map_eq_flatMap]
    rfl

end SqlDialects
