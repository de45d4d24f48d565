import SqlDialects.Proofs.RoundTrip.Leaf

/-!
# Strings and names end where they were written to end

Whoever puts a text between the quotes of a string, or a name into a query, relies
on the text to stay there: whatever it holds, and whatever comes behind it, it has
to be cut off as one token, and the token has to stand for that text and no other.

For strings this holds behind anything but a quote (`cutsOff_writeString`).  For
names it holds behind anything that could neither close the quotes of the dialect
once more nor make a longer word (`cutsOff_writeIdentifier`).  No condition is put
on the text or the name.

Whether a name needs quotes is decided by the writer, from the ASCII form of plain
names and its own list of reserved words; whether it is a word, by the lexer, from
Unicode classes and a list of its own.  The two never disagree to the harm of a
name: a plain name is a word, and what is reserved for one is so for the other.
-/

namespace SqlDialects

/-! ## The first token of a text -/

namespace Lexer

/-- From `text` and what follows it a lexer cuts off `text`, whole and nothing else, as a token of
the given kind; the rest is cut as if it stood alone. -/
structure CutsOff (l : Lexer) (text rest : List Char) (kind : TokenKind) : Prop where
  /-- The first element is the text, and the other elements are those of the rest. -/
  element : ∃ rule ∈ l.rules, elements l.rules (text ++ rest) =
    (⟨rule, text⟩ :: (elements l.rules rest).1, (elements l.rules rest).2)
  /-- The first token is the text, of the given kind, wherever the text begins. -/
  token : ∀ p, l.placeTokens p (elements l.rules (text ++ rest)).1 =
    ⟨kind, .ofList text, p.spanOf text⟩ ::
      l.placeTokens (p.after text) (elements l.rules rest).1

/-- What is taken as a token, and not dropped, is cut off. -/
theorem Takes.cutsOff {l : Lexer} {F : Option Char → Prop} {text rest : List Char}
    {kind : TokenKind} (h : l.Takes F text kind) (hkind : kind.isTrivia = false)
    (hrest : F rest.head?) : l.CutsOff text rest kind := by
  obtain ⟨rule, hfirst, hkindOf⟩ := h rest hrest
  have helements := elements_of_matched hfirst
  refine ⟨⟨rule, (of_firstReaction?_eq_matched hfirst).1, helements⟩, fun p => ?_⟩
  have htrivia : rule.kind.isTrivia = false := by
    rw [← isTrivia_kindOf (l := l) ⟨rule, text⟩, hkindOf]
    exact hkind
  rw [helements, placeTokens, hkindOf]
  simp only [htrivia, Bool.false_eq_true, if_false]

end Lexer

variable {n : DialectName} {d : Dialect}

/-! ## Strings -/

/-- A token with the text of a written string has the value that was written. -/
theorem Grammar.stringValue_of_writeString (hd : n.Makes d) {value : String} {t : Token}
    (ht : t.text = d.writeString value) (c : Cursor) : stringValue d t c = .ok value c := by
  have hescape : KnownEscape d.stringEscape? := by
    rw [hd.stringEscape?]
    exact n.stringEscape?_lexer
  unfold stringValue
  rw [ht, Dialect.writeString, Quoting.readString?_writeString hescape]
  rfl

/-- **A written string cannot be broken out of**: before anything but a quote it is cut off whole,
as one string literal, and the value of such a literal is the text that was written.  So it is
without an escape character, in standard SQL, and with the backslash of the other dialects. -/
theorem cutsOff_writeString (name : DialectName) (config? : Option Setting) (value : String)
    {rest : List Char} (hrest : rest.head? ≠ some '\'') :
    ∃ l, (Dialect.builtin name config?).lexer? = some l ∧
      l.stringEscape? = (if name = .ansi then none else some '\\') ∧
      l.CutsOff ((Dialect.builtin name config?).writeString value).toList rest .stringLiteral ∧
      ∀ t c, t.lexeme = ⟨.stringLiteral, (Dialect.builtin name config?).writeString value⟩ →
        Grammar.stringValue (Dialect.builtin name config?) t c = .ok value c := by
  have hd := name.makes_builtin config?
  refine ⟨name.lexer, hd.lexer?, by cases name <;> rfl, ?_, fun t c ht =>
    Grammar.stringValue_of_writeString hd (congrArg Lexeme.text ht) c⟩
  unfold Dialect.writeString
  rw [hd.stringEscape?]
  exact (name.takes_string value).cutsOff rfl hrest

/-- A text that ends in a backslash and tries to go on as SQL stays a text in BigQuery. -/
theorem cutsOff_writeString_backslash :
    let d := Dialect.builtin .bigquery none
    let rest := " OR 'a' = 'a'".toList
    rest.head? ≠ some '\'' ∧ d.writeString "' OR 1 = 1 --\\" = "'\\' OR 1 = 1 --\\\\'" ∧
      ∃ l, d.lexer? = some l ∧
        l.stringEscape? = (if DialectName.bigquery = .ansi then none else some '\\') ∧
        l.CutsOff "'\\' OR 1 = 1 --\\\\'".toList rest .stringLiteral ∧
        ∀ t c, t.lexeme = ⟨.stringLiteral, "'\\' OR 1 = 1 --\\\\'"⟩ →
          Grammar.stringValue d t c = .ok "' OR 1 = 1 --\\" c := by
  intro d rest
  have hrest : rest.head? ≠ some '\'' := by decide
  have hwrite : d.writeString "' OR 1 = 1 --\\" = "'\\' OR 1 = 1 --\\\\'" := by decide +kernel
  have hcuts := cutsOff_writeString .bigquery none "' OR 1 = 1 --\\" hrest
  rw [hwrite] at hcuts
  exact ⟨hrest, hwrite, hcuts⟩

/-! ## Names -/

/-- A written name begins with a quote exactly if it is quoted. -/
theorem head?_writeIdentifier_eq_openingQuote (hd : n.Makes d) (id : Identifier) :
    (d.writeIdentifier id).toList.head? = some d.style.openingQuote ↔ d.quotes id = true := by
  unfold Dialect.writeIdentifier
  cases hquotes : d.quotes id with
  | true =>
    refine iff_of_true ?_ rfl
    show (String.ofList _).toList.head? = _
    rw [String.toList_ofList]
    rfl
  | false =>
    refine iff_of_false (fun hhead => ?_) Bool.false_ne_true
    change id.name.toList.head? = some d.style.openingQuote at hhead
    obtain ⟨-, hplain, -⟩ := Dialect.isPlainName_of_quotes_eq_false hquotes
    have hword := Text.isWord_of_isPlainName hplain
    obtain ⟨cs, hname⟩ := List.head?_eq_some_iff.1 hhead
    rw [hname, hd.openingQuote, Text.isWord, Bool.and_eq_true] at hword
    have hquote : Ansi.wordStart.contains n.draft.style.closingQuote = false := by
      cases n <;> decide
    rw [hquote] at hword
    exact Bool.false_ne_true hword.1

/-- A written name is taken whole, before what could neither close its quotes once more nor make it
a longer word. -/
theorem DialectName.takes_identifier (hd : n.Makes d) (id : Identifier) :
    n.lexer.Takes n.EndsName (d.writeIdentifier id).toList (d.nameLexeme id).kind := by
  unfold Dialect.nameLexeme Dialect.writeIdentifier
  rw [hd.openingQuote, hd.closingQuote]
  cases hquotes : d.quotes id with
  | true => exact fun rest hrest => n.takes_name id.name rest hrest.2
  | false =>
    obtain ⟨-, hplain, hreserved⟩ := Dialect.isPlainName_of_quotes_eq_false hquotes
    rw [hd.isReserved] at hreserved
    have htakes := n.takes_word (Text.isWord_of_isPlainName hplain)
    rw [wordKind, hreserved] at htakes
    exact fun rest hrest => htakes rest hrest.1

/-- On a token that is a written name the grammar reads that name. -/
theorem Grammar.identifier_of_nameLexeme {id : Identifier} {c : Cursor}
    (hc : c.current.lexeme = d.nameLexeme id) :
    identifier c = .ok ⟨id.name, d.quotes id⟩ c.advance := by
  have hkind : c.current.kind = if d.quotes id then .quotedIdentifier else .word :=
    congrArg Lexeme.kind hc
  have htext : c.current.text = d.writeIdentifier id := congrArg Lexeme.text hc
  unfold identifier
  rw [Parser.bind_of_ok (Parser.peek_run c), hkind]
  unfold Dialect.writeIdentifier at htext
  cases hquotes : d.quotes id with
  | true =>
    rw [hquotes, if_pos rfl] at htext
    simp only [if_true]
    rw [Parser.bind_of_ok (Parser.advance_run c), htext, Quoting.readName_writeName]
    rfl
  | false =>
    rw [hquotes, if_neg Bool.false_ne_true] at htext
    simp only [Bool.false_eq_true, if_false]
    rw [Parser.bind_of_ok (Parser.advance_run c), htext]
    rfl

/-- **A written name is read as itself**, whatever it is: before what could neither close its
quotes once more nor make it a longer word it is cut off whole, in quotes as a quoted name and
otherwise as a word, which is no keyword; and from such a token the grammar reads the name, quoted
exactly if quotes were written, which they are if the name was quoted before. -/
theorem cutsOff_writeIdentifier (name : DialectName) (config? : Option Setting) (id : Identifier)
    {rest : List Char} (hrest : ∀ c, rest.head? = some c →
      c ≠ (Dialect.builtin name config?).style.closingQuote ∧ Ansi.wordRest.contains c = false) :
    ∃ l kind quoted, (Dialect.builtin name config?).lexer? = some l ∧
      l.CutsOff ((Dialect.builtin name config?).writeIdentifier id).toList rest kind ∧
      kind = (if quoted then .quotedIdentifier else .word) ∧
      (∀ c, c.current.lexeme = ⟨kind, (Dialect.builtin name config?).writeIdentifier id⟩ →
        Grammar.identifier c = .ok ⟨id.name, quoted⟩ c.advance) ∧
      (quoted = true ↔ ((Dialect.builtin name config?).writeIdentifier id).toList.head? =
        some (Dialect.builtin name config?).style.openingQuote) ∧
      (id.quoted = true → quoted = true) := by
  have hd := name.makes_builtin config?
  have hends : name.EndsName rest.head? := by
    refine ⟨fun c hc => (hrest c hc).2, fun hquote => (hrest _ hquote).1 ?_⟩
    rw [hd.closingQuote]
    rfl
  refine ⟨name.lexer, _, (Dialect.builtin name config?).quotes id, hd.lexer?, ?_, rfl,
    fun c hc => Grammar.identifier_of_nameLexeme hc,
    (head?_writeIdentifier_eq_openingQuote hd id).symm, fun hquoted => ?_⟩
  · refine (DialectName.takes_identifier hd id).cutsOff ?_ hends
    rcases Dialect.kind_nameLexeme _ id with hkind | hkind <;> rw [hkind] <;> rfl
  · unfold Dialect.quotes
    rw [hquoted]
    rfl

/-- A name that looks like the end of a name, a comment and a reserved word is still a name, here
before the point of a dotted one. -/
theorem cutsOff_writeIdentifier_from :
    let d := Dialect.builtin .clickhouse none
    let rest := ".\x60b\x60".toList
    (∀ c, rest.head? = some c → c ≠ d.style.closingQuote ∧ Ansi.wordRest.contains c = false) ∧
      d.writeIdentifier ⟨"a\" -- \nFROM", false⟩ = "\"a\"\" -- \nFROM\"" ∧
      ∃ l kind quoted, d.lexer? = some l ∧
        l.CutsOff "\"a\"\" -- \nFROM\"".toList rest kind ∧
        kind = (if quoted then .quotedIdentifier else .word) ∧
        (∀ c, c.current.lexeme = ⟨kind, "\"a\"\" -- \nFROM\""⟩ →
          Grammar.identifier c = .ok ⟨"a\" -- \nFROM", quoted⟩ c.advance) ∧
        (quoted = true ↔ "\"a\"\" -- \nFROM\"".toList.head? = some d.style.openingQuote) ∧
        (false = true → quoted = true) := by
  intro d rest
  have hrest : ∀ c, rest.head? = some c →
      c ≠ d.style.closingQuote ∧ Ansi.wordRest.contains c = false := by
    intro c hc
    cases hc
    exact ⟨by decide +kernel, by decide⟩
  have hwrite : d.writeIdentifier ⟨"a\" -- \nFROM", false⟩ = "\"a\"\" -- \nFROM\"" := by
    decide +kernel
  have hcuts := cutsOff_writeIdentifier .clickhouse none ⟨"a\" -- \nFROM", false⟩ hrest
  rw [hwrite] at hcuts
  exact ⟨hrest, hwrite, hcuts⟩

end SqlDialects
