import SqlDialects.Proofs.Lexing.Partition
import SqlDialects.Proofs.Parser.Within
import SqlDialects.Proofs.Statements.Outcome

/-!
# Errors point at what they talk about

An error of the grammar speaks of a token: what was found instead of something else,
or the name of a call whose arguments do not fit.  That token is one of the text
(`Pairing.within`), and a token of a text lies where it says
(`Lexer.Partitions`), so whoever follows the error into the text finds there the very
words that it quotes.  Only the end is quoted as nothing, and only the end lies where
the text is over.
-/

namespace SqlDialects

/-- An empty stretch covers nothing. -/
theorem Span.eq_of_textIn?_point {s : Span} {source text : String} (hpoint : s.stop = s.start)
    (h : s.textIn? source = some text) : text = "" := by
  obtain ⟨middle, hslice, rfl⟩ := Option.map_eq_some_iff.1 h
  rw [hpoint, Text.slice?, if_neg (Nat.lt_irrefl _), Nat.sub_self] at hslice
  obtain ⟨⟨before, rest⟩, -, hcut⟩ := Option.bind_eq_some_iff.1 hslice
  dsimp only at hcut
  rw [Text.splitAtByte?_zero] at hcut
  cases hcut
  rfl

/-- Among the tokens of a text only the end lies where the text is over. -/
theorem DialectName.kind_eq_endOfFile_iff (n : DialectName) {text : String} {tokens : List Token}
    (h : n.lexer.lex text = .ok tokens) {t : Token} (ht : t ∈ tokens) :
    t.kind = .endOfFile ↔
      t.span.start = Text.byteLength text.toList ∧ t.span.stop = Text.byteLength text.toList := by
  have hparts := Lexer.partitions_of_lex n.lexer text
  rw [h] at hparts
  obtain ⟨front, finish, hfront, hkinds⟩ := n.exists_front_of_lex h
  obtain ⟨front', finish', hfront', htexts, hstart, hstop⟩ := hparts.ends
  obtain ⟨rfl, hfinish⟩ := List.append_inj' (hfront.symm.trans hfront') rfl
  rw [hfront] at ht
  rcases List.mem_append.1 ht with hmem | hlast
  · refine iff_of_false (hkinds t hmem) fun ⟨hs, he⟩ => htexts t hmem ?_
    exact Span.eq_of_textIn?_point (he.trans hs.symm) (hparts.texts t (hfront ▸ ht))
  · rw [hfinish, List.mem_singleton] at hlast
    rw [hlast]
    exact iff_of_true rfl ⟨hstart, hstop⟩

variable {α : Type} {n : DialectName} {d : Dialect} {text : String}

/-- What a parser rejects is a token of the text, if it goes in step with itself. -/
theorem Lexer.token_mem_of_read {l : Lexer} {p : Parser α} {V : α → α → Prop}
    (hp : ∀ ts, (Pairing.within ts).InStep V p p) {e : ParseError}
    (h : l.read p text = .error (.parse e)) :
    ∃ tokens, l.lex text = .ok tokens ∧ e.token ∈ tokens := by
  obtain ⟨tokens, c, hlex, hrun⟩ := read_eq_parse.1 h
  have hmem := (hp _).token_mem_of_rejected hrun
  rw [tokens_ofTokens hlex] at hmem
  exact ⟨tokens, hlex, hmem⟩

/-- Both ways of reading reject tokens of the text. -/
theorem Dialect.token_mem_of_rejected (hd : n.Makes d) {e : ParseError}
    (h : (d.parse text).outcome = .error (.parse e) ∨
      (d.parseOne text).outcome = .error (.parse e)) :
    ∃ tokens, n.lexer.lex text = .ok tokens ∧ e.token ∈ tokens := by
  rcases h with h | h
  · rw [outcome_parse hd] at h
    exact Lexer.token_mem_of_read
      (fun ts => Pairing.InStep.many (Pairing.throughout_within ts).nextStatement?) h
  · rw [outcome_parseOne hd] at h
    exact Lexer.token_mem_of_read (fun ts => (Pairing.throughout_within ts).onlyStatement) h

/-- **Errors of the grammar lie where they say.**  The token that an error is about is one of the
text: its stretch covers the words that the error quotes, is the empty one at the end of the text
if and only if the token is the end, and begins in the line and at the character that can be
counted off the text before it. -/
theorem located_of_rejected (name : DialectName) (config? : Option Setting) {text : String}
    {e : ParseError}
    (h : ((Dialect.builtin name config?).parse text).outcome = .error (.parse e) ∨
      ((Dialect.builtin name config?).parseOne text).outcome = .error (.parse e)) :
    (∃ tokens, ((Dialect.builtin name config?).lex text).outcome = .ok tokens ∧
      e.token ∈ tokens) ∧
    e.token.span.textIn? text = some e.token.text ∧
    (e.token.kind = .endOfFile ↔ e.token.span.start = Text.byteLength text.toList ∧
      e.token.span.stop = Text.byteLength text.toList) ∧
    ∃ before, before <+: text.toList ∧ e.token.span.BeginsAfter before := by
  have hd := name.makes_builtin config?
  obtain ⟨tokens, hlex, hmem⟩ := Dialect.token_mem_of_rejected hd h
  have hparts := Lexer.partitions_of_lex name.lexer text
  rw [hlex] at hparts
  exact ⟨⟨tokens, (Dialect.outcome_lex_eq_ok hd).2 hlex, hmem⟩, hparts.texts _ hmem,
    name.kind_eq_endOfFile_iff hlex hmem, hparts.places _ hmem⟩

/-- A call is rejected for its arguments when all of it was read, and the error still lies at its
name, counted in bytes from the beginning and in characters from the line feed. -/
theorem located_of_rejected_call :
    let d := Dialect.builtin .clickhouse none
    let text := "SELECT 'é',\n  quantile(1, 2)(3)"
    let e : ParseError :=
      ⟨.invalidCall (.count 1 2), ⟨.word, "quantile", ⟨15, 23, 2, 3⟩⟩⟩
    (d.parse text).outcome = .error (.parse e) ∧
      e.token.span.textIn? text = some "quantile" ∧
      ∃ before, before <+: text.toList ∧ e.token.span.BeginsAfter before := by
  intro d text e
  have hparse : (d.parse text).outcome = .error (.parse e) := by decide +kernel
  obtain ⟨-, htext, -, hplace⟩ := located_of_rejected .clickhouse none (Or.inl hparse)
  exact ⟨hparse, htext, hplace⟩

end SqlDialects
