import SqlDialects.Proofs.Lexing.Taken

/-!
# Literals are as long as they claim

Whoever reads a literal off a token takes something away first: the two quotes of a
string, the mark before hexadecimal or binary digits.  That goes by bytes, and on a
token made by hand it can fail.  On the tokens of a text it cannot.  The rules for
such tokens take nothing without quotes or mark, and these are characters of one byte,
so that what is left lies between characters however many bytes its own ones have.
-/

namespace SqlDialects

namespace Lexeme

/-- A lexeme that is long enough for the literal that it claims to be: something stands between the
quotes of a string, if only nothing, and behind the mark of digits. -/
structure Intact (l : Lexeme) : Prop where
  string : l.kind = .stringLiteral →
    ∃ body, Text.slice? 1 (Text.byteLength l.text.toList - 1) l.text.toList = some body
  digits : l.kind = .hexStringLiteral ∨ l.kind = .bitStringLiteral →
    ∃ mark digits, Text.splitAtByte? 2 l.text.toList = some (mark, digits)

theorem intact_endOfFile : endOfFile.Intact where
  string := nofun
  digits := nofun

end Lexeme

namespace DialectName

variable {n : DialectName}

/-- Strings come from one rule. -/
theorem rule_of_string {r : LexicalRule} (hr : r ∈ n.rules) (hkind : r.kind = .stringLiteral) :
    r = n.stringRule := by
  revert r
  cases n <;> decide

/-- Hexadecimal and binary digits follow a mark of two bytes. -/
theorem splitAtByte?_of_taken {l : Lexeme} (h : l.Taken n)
    (hkind : l.kind = .hexStringLiteral ∨ l.kind = .bitStringLiteral) :
    ∃ mark digits, Text.splitAtByte? 2 l.text.toList = some (mark, digits) := by
  have hmark : ∃ mark digits, l.text.toList = '0' :: mark :: digits ∧ mark.utf8Size = 1 := by
    unfold Lexeme.Taken at h
    rcases hkind with hkind | hkind <;>
    · rw [hkind] at h
      obtain ⟨-, mark, digits, htext, hmark, -⟩ := h
      exact ⟨mark, digits, htext, hmark⟩
  obtain ⟨mark, digits, htext, hmark⟩ := hmark
  have hcut := Text.splitAtByte?_append ['0', mark] digits
  have hlength : Text.byteLength ['0', mark] = 2 := congrArg (1 + ·) hmark
  rw [hlength] at hcut
  exact ⟨['0', mark], digits, htext ▸ hcut⟩

/-- **Whatever a rule takes is long enough** for the literal that it is taken for. -/
theorem intact_of_react {e : Element} (hrule : e.rule ∈ n.rules) {s rest : List Char}
    (h : e.rule.react s = some (.matched e.text rest)) :
    Lexeme.Intact ⟨n.lexer.kindOf e, .ofList e.text⟩ where
  string := by
    intro hkind
    have hstring : e.rule.kind = .stringLiteral := by
      unfold Lexer.kindOf at hkind
      split at hkind
      · cases hkind
      · exact hkind
    rw [rule_of_string hrule hstring] at h
    obtain ⟨_, htext, us, -, rfl, -⟩ := Lexical.exists_body_of_reactQuoted h
    rw [String.toList_ofList, htext]
    exact ⟨_, Text.slice?_between rfl rfl us.flatten⟩
  digits := splitAtByte?_of_taken (taken_of_react hrule h)

/-- **Every token of a text is long enough.** -/
theorem intact_of_lex {text : String} {tokens : List Token} (h : n.lexer.lex text = .ok tokens) :
    ∀ t ∈ tokens, t.lexeme.Intact :=
  forall_lexeme_of_lex Lexeme.intact_endOfFile (fun hrule _ _ _ hreact =>
    intact_of_react hrule hreact) h

end DialectName

end SqlDialects
