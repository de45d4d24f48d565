import SqlDialects.Proofs.Lexing.Token

/-!
# What the tokens of a text are

The way back from a token to the text that it was cut from.  Each rule takes only
texts of its own form, and for the kinds of token whose text the grammar keeps ---
words, numerals, hexadecimal and binary digits --- only one rule gives them.  So a
token of such a kind has the form that its kind promises, and it would be cut as
the same token again.
-/

namespace SqlDialects

namespace Lexeme

/-- The form that the text of a lexeme has, by its kind. -/
def Taken (n : DialectName) (l : Lexeme) : Prop :=
  match l.kind with
  | .word => Text.isWord l.text.toList = true ∧ n.lexer.isReserved l.text = false
  | .keyword => Text.isWord l.text.toList = true
  | .numericLiteral => Lexical.isNumeral l.text.toList = true
  | .hexStringLiteral => n = .clickhouse ∧ ∃ mark digits, l.text.toList = '0' :: mark :: digits ∧
      mark.utf8Size = 1 ∧ Clickhouse.isDigits Clickhouse.hexDigit digits = true
  | .bitStringLiteral => n = .clickhouse ∧ ∃ mark digits, l.text.toList = '0' :: mark :: digits ∧
      mark.utf8Size = 1 ∧ Clickhouse.isDigits Clickhouse.bit digits = true
  | _ => True

theorem taken_endOfFile (n : DialectName) : endOfFile.Taken n := trivial

namespace Taken

variable {n : DialectName} {t : Token} (h : t.lexeme.Taken n)

include h

theorem word (hkind : t.kind = .word) :
    Text.isWord t.text.toList = true ∧ n.lexer.isReserved t.text = false := by
  cases t
  cases hkind
  exact h

theorem keyword (hkind : t.kind = .keyword) : Text.isWord t.text.toList = true := by
  cases t
  cases hkind
  exact h

theorem numeral (hkind : t.kind = .numericLiteral) : Lexical.isNumeral t.text.toList = true := by
  cases t
  cases hkind
  exact h

theorem hex (hkind : t.kind = .hexStringLiteral) :
    n = .clickhouse ∧ ∃ mark digits, t.text.toList = '0' :: mark :: digits ∧
      mark.utf8Size = 1 ∧ Clickhouse.isDigits Clickhouse.hexDigit digits = true := by
  cases t
  cases hkind
  exact h

theorem bits (hkind : t.kind = .bitStringLiteral) :
    n = .clickhouse ∧ ∃ mark digits, t.text.toList = '0' :: mark :: digits ∧
      mark.utf8Size = 1 ∧ Clickhouse.isDigits Clickhouse.bit digits = true := by
  cases t
  cases hkind
  exact h

end Taken

end Lexeme

namespace Lexer

variable {l : Lexer}

/-- An element was matched by its rule, which is one of the lexer's. -/
theorem exists_react_of_mem_elements {rules : List LexicalRule} {s : List Char} {e : Element}
    (h : e ∈ (elements rules s).1) :
    e.rule ∈ rules ∧ ∃ s' rest, e.rule.react s' = some (.matched e.text rest) := by
  fun_induction elements rules s with
  | case1 s rule text rest hfirst later left heq ih =>
    rw [heq] at ih
    rcases List.mem_cons.1 h with rfl | h
    · obtain ⟨hrule, hreact⟩ := of_firstReaction?_eq_some hfirst
      exact ⟨hrule, s, rest, hreact⟩
    · exact ih h
  | case2 => cases h

theorem exists_element_of_mem_lexemesOf {es : List Element} {m : Lexeme}
    (h : m ∈ l.lexemesOf es) :
    ∃ e ∈ es, e.rule.kind.isTrivia = false ∧ m = ⟨l.kindOf e, .ofList e.text⟩ := by
  induction es with
  | nil => cases h
  | cons e es ih =>
    rw [lexemesOf] at h
    split at h
    · obtain ⟨e', he', hm⟩ := ih h
      exact ⟨e', List.mem_cons_of_mem e he', hm⟩
    · rename_i htrivia
      rcases List.mem_cons.1 h with rfl | h
      · exact ⟨e, List.mem_cons_self, Bool.eq_false_iff.2 htrivia, rfl⟩
      · obtain ⟨e', he', hm⟩ := ih h
        exact ⟨e', List.mem_cons_of_mem e he', hm⟩

end Lexer

namespace DialectName

variable {n : DialectName}

/-- The kinds that the grammar keeps the texts of come from one rule each. -/
theorem rule_of_kind {r : LexicalRule} (hr : r ∈ n.rules) :
    (r.kind = .word → r = wordRule) ∧ r.kind ≠ .keyword ∧
      (r.kind = .numericLiteral → r = numeralRule) ∧
      (r.kind = .hexStringLiteral → n = .clickhouse ∧ r = Clickhouse.hexRule) ∧
      (r.kind = .bitStringLiteral → n = .clickhouse ∧ r = Clickhouse.bitRule) := by
  revert r
  cases n <;> decide

theorem isWord_of_react {s t rest : List Char} (h : wordRule.react s = some (.matched t rest)) :
    Text.isWord t = true := by
  obtain ⟨hsplit, -⟩ := Lexical.of_ofSplit?_eq_matched h
  obtain ⟨c, u, rfl, hc, hall⟩ := Regex.exists_run_of_split? hsplit
  rw [Text.isWord, hc]
  exact List.all_eq_true.2 hall

/-- **Every token has the form of its kind.** -/
theorem taken_of_react {e : Element} (hrule : e.rule ∈ n.rules) {s rest : List Char}
    (h : e.rule.react s = some (.matched e.text rest)) :
    Lexeme.Taken n ⟨n.lexer.kindOf e, .ofList e.text⟩ := by
  obtain ⟨hword, hkeyword, hnumeral, hhex, hbits⟩ := rule_of_kind hrule
  unfold Lexeme.Taken
  simp only [String.toList_ofList]
  by_cases hk : e.rule.kind = .word
  · rw [hword hk] at h
    have hisWord := isWord_of_react h
    unfold Lexer.kindOf
    by_cases hreserved : n.lexer.isReserved (.ofList e.text) = true
    · rw [if_pos ⟨hk, hreserved⟩]
      exact hisWord
    · rw [if_neg fun hboth => hreserved hboth.2, hk]
      exact ⟨hisWord, Bool.not_eq_true _ ▸ hreserved⟩
  · rw [Lexer.kindOf_of_ne_word hk]
    cases hkind' : e.rule.kind
    case word => exact absurd hkind' hk
    case keyword => exact absurd hkind' hkeyword
    case numericLiteral =>
      rw [hnumeral hkind'] at h
      exact Lexical.isNumeral_of_splitNumeral? (Lexical.of_ofSplit?_eq_matched h).1
    case hexStringLiteral =>
      obtain ⟨hn, hr⟩ := hhex hkind'
      rw [hr] at h
      obtain ⟨hsplit, -⟩ := Lexical.of_ofSplit?_eq_matched h
      obtain ⟨x, digits, ht, hx, hdigits⟩ := Clickhouse.exists_of_split?_hexLiteral hsplit
      refine ⟨hn, x, digits, ht, ?_, hdigits⟩
      rcases hx with rfl | rfl <;> decide
    case bitStringLiteral =>
      obtain ⟨hn, hr⟩ := hbits hkind'
      rw [hr] at h
      obtain ⟨hsplit, -⟩ := Lexical.of_ofSplit?_eq_matched h
      obtain ⟨digits, ht, hdigits⟩ := Clickhouse.exists_of_split?_bitLiteral hsplit
      exact ⟨hn, 'b', digits, ht, by decide, hdigits⟩
    all_goals trivial

/-- What holds of whatever the rules take, and of the end, holds of the tokens of a text. -/
theorem forall_lexeme_of_lex {P : Lexeme → Prop} (hend : P .endOfFile)
    (hreact : ∀ {e : Element}, e.rule ∈ n.rules → e.rule.kind.isTrivia = false →
      ∀ {s rest}, e.rule.react s = some (.matched e.text rest) →
        P ⟨n.lexer.kindOf e, .ofList e.text⟩)
    {text : String} {tokens : List Token} (h : n.lexer.lex text = .ok tokens) :
    ∀ t ∈ tokens, P t.lexeme := by
  intro t ht
  unfold Lexer.lex at h
  generalize hcut : Lexer.elements n.lexer.rules text.toList = cut at h
  obtain ⟨es, left⟩ := cut
  simp only at h
  split at h
  · cases h
    rcases List.mem_append.1 ht with ht | ht
    · have hmem : t.lexeme ∈ n.lexer.lexemesOf es := by
        rw [← Lexer.map_lexeme_placeTokens .first]
        exact List.mem_map_of_mem ht
      obtain ⟨e, he, htrivia, hlexeme⟩ := Lexer.exists_element_of_mem_lexemesOf hmem
      have hes : (Lexer.elements n.lexer.rules text.toList).1 = es := congrArg Prod.fst hcut
      rw [← hes] at he
      obtain ⟨hrule, s, rest, he⟩ := Lexer.exists_react_of_mem_elements he
      rw [hlexeme]
      exact hreact hrule htrivia he
    · rw [List.mem_singleton.1 ht]
      exact hend
  · cases h

/-- **The tokens of a text have the forms of their kinds.** -/
theorem taken_of_lex {text : String} {tokens : List Token} (h : n.lexer.lex text = .ok tokens) :
    ∀ t ∈ tokens, t.lexeme.Taken n :=
  forall_lexeme_of_lex (Lexeme.taken_endOfFile n) (fun hrule _ _ _ hreact =>
    taken_of_react hrule hreact) h

end DialectName

end SqlDialects
