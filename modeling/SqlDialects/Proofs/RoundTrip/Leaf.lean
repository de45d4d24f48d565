import SqlDialects.Grammar.Name
import SqlDialects.Proofs.Lexing.Casing
import SqlDialects.Proofs.Reading.Lists
import SqlDialects.Proofs.RoundTrip.Readable
import SqlDialects.Render.Leaf

/-!
# Names, strings and types come back

The leaves of the round trip.  For each there are two statements: its text spells
some lexemes, and the parser that is meant for it reads these lexemes as the leaf
in its canonical form.

A name comes back under its own spelling whatever it is.  Either it needs no
quotes, and then it is a plain name and not reserved, so it is cut as a word; or
it stands in quotes, and what is between them is given back whole.
-/

namespace SqlDialects

variable {n : DialectName} {d : Dialect}

/-! ## Names -/

namespace Dialect

/-- The lexeme that a name is written as. -/
def nameLexeme (d : Dialect) (id : Identifier) : Lexeme :=
  ⟨if d.quotes id then .quotedIdentifier else .word, d.writeIdentifier id⟩

/-- A name is one token or another, but never the end. -/
theorem kind_nameLexeme (d : Dialect) (id : Identifier) :
    (d.nameLexeme id).kind = .word ∨ (d.nameLexeme id).kind = .quotedIdentifier := by
  unfold nameLexeme
  by_cases h : d.quotes id = true
  · rw [if_pos h]
    exact Or.inr rfl
  · rw [if_neg h]
    exact Or.inl rfl

theorem kind_nameLexeme_ne {kind : TokenKind} (id : Identifier) (hword : kind ≠ .word)
    (hquoted : kind ≠ .quotedIdentifier) : (d.nameLexeme id).kind ≠ kind := by
  rcases d.kind_nameLexeme id with h | h
  · rw [h]
    exact hword.symm
  · rw [h]
    exact hquoted.symm

/-- A name without quotes is plain and not reserved. -/
theorem isPlainName_of_quotes_eq_false {id : Identifier} (h : d.quotes id = false) :
    id.quoted = false ∧ Text.isPlainName id.name = true ∧ d.isReserved id.name = false := by
  unfold quotes at h
  simp only [Bool.or_eq_false_iff, Bool.not_eq_false'] at h
  exact ⟨h.1.1.1, h.1.2, h.2⟩

end Dialect

namespace DialectName

/-- What may follow a written name. -/
def EndsName (n : DialectName) (o : Option Char) : Prop := EndsWord o ∧ o ≠ some n.nameQuote

theorem endsName_of_closes : ∀ o, Closes o → n.EndsName o := by
  intro o ho
  refine ⟨endsWord_of_closes o ho, ?_⟩
  rcases ho with rfl | rfl | rfl | rfl <;> cases n <;> decide

theorem cuts_identifier (hd : n.Makes d) (id : Identifier) :
    n.lexer.Cuts n.EndsName (d.writeIdentifier id).toList [d.nameLexeme id] := by
  unfold Dialect.nameLexeme Dialect.writeIdentifier
  rw [hd.openingQuote, hd.closingQuote]
  cases hquotes : d.quotes id with
  | true =>
    have htakes := (n.takes_name id.name).cuts
    rw [Lexer.lexemeOf, String.ofList_toList] at htakes
    exact htakes.mono fun o ho => ho.2
  | false =>
    obtain ⟨-, hplain, hreserved⟩ := Dialect.isPlainName_of_quotes_eq_false hquotes
    rw [hd.isReserved] at hreserved
    have hcuts := cuts_word (n := n) (Text.isWord_of_isPlainName hplain)
    rw [wordKind, hreserved] at hcuts
    exact hcuts.mono fun o ho => ho.1

/-- A written name begins with a letter, an underscore or a quote. -/
theorem head_writeIdentifier (hd : n.Makes d) (id : Identifier) :
    ∃ c, (d.writeIdentifier id).toList.head? = some c ∧ Text.isBlank c = false ∧
      c.isDigit = false := by
  unfold Dialect.writeIdentifier
  rw [hd.openingQuote, hd.closingQuote]
  cases hquotes : d.quotes id with
  | true =>
    refine ⟨n.nameQuote, ?_, ?_⟩
    · show (String.ofList _).toList.head? = _
      rw [String.toList_ofList]
      rfl
    · cases n <;> decide
  | false =>
    obtain ⟨-, hplain, -⟩ := Dialect.isPlainName_of_quotes_eq_false hquotes
    have hword := Text.isWord_of_isPlainName hplain
    show ∃ c, id.name.toList.head? = some c ∧ _
    cases hname : id.name.toList with
    | nil =>
      rw [hname] at hword
      cases hword
    | cons c cs =>
      rw [hname, Text.isWord, Bool.and_eq_true] at hword
      exact ⟨c, rfl, Text.isBlank_of_wordRest (Text.contains_wordRest_of_wordStart hword.1),
        Text.isDigit_of_wordStart hword.1⟩

theorem spells_identifier (hd : n.Makes d) (id : Identifier) :
    n.lexer.Spells (d.writeIdentifier id) [d.nameLexeme id] := by
  obtain ⟨c, hc, hblank, -⟩ := head_writeIdentifier hd id
  exact ⟨⟨c, hc, hblank⟩, (cuts_identifier hd id).mono endsName_of_closes⟩

/-- The lexemes of a dotted name. -/
def dotted (d : Dialect) : List Identifier → List Lexeme
  | [] => []
  | id :: ids => d.nameLexeme id :: ids.flatMap fun id => [.dot, d.nameLexeme id]

/-- **A dotted name is cut at its points.** -/
theorem cuts_dotted (hd : n.Makes d) (id : Identifier) (ids : List Identifier) :
    n.lexer.Cuts n.EndsName (String.intercalate "." ((id :: ids).map d.writeIdentifier)).toList
      (dotted d (id :: ids)) := by
  have hdot : n.lexer.Cuts _ ".".toList [.dot] := n.takes_dot.cuts
  induction ids generalizing id with
  | nil =>
    have hid := cuts_identifier hd id
    simpa [dotted] using hid
  | cons id' ids ih =>
    obtain ⟨c, hc, -, hdigit⟩ := head_writeIdentifier hd id'
    have hfirst : (String.intercalate "." ((id' :: ids).map d.writeIdentifier)).toList.head? =
        some c := Text.head?_intercalate hc _
    have htail := hdot.append_toList (ih id') fun o _ e he => by
      rw [hfirst] at he
      cases he
      exact hdigit
    have hall := (cuts_identifier hd id).append_toList htail fun o _ => by
      rw [String.toList_append]
      refine ⟨?_, ?_⟩
      · intro e he
        cases he
        decide
      · intro h
        cases n <;> cases h
    have htext : String.intercalate "." ((id :: id' :: ids).map d.writeIdentifier) =
        d.writeIdentifier id ++
          ("." ++ String.intercalate "." ((id' :: ids).map d.writeIdentifier)) := by
      rw [List.map_cons, List.map_cons, String.intercalate_cons_cons, String.append_assoc]
    rw [htext]
    exact hall

theorem spells_dotted (hd : n.Makes d) {ids : List Identifier} (hne : ids ≠ []) :
    n.lexer.Spells (String.intercalate "." (ids.map d.writeIdentifier)) (dotted d ids) := by
  obtain ⟨id, rest, rfl⟩ := List.exists_cons_of_ne_nil hne
  obtain ⟨c, hc, hblank, -⟩ := head_writeIdentifier hd id
  exact ⟨⟨c, Text.head?_intercalate hc _, hblank⟩,
    (cuts_dotted hd id rest).mono endsName_of_closes⟩

end DialectName

namespace Grammar

/-- **A name is read as itself**, quoted if it was written in quotes. -/
theorem reads_identifier (hd : n.Makes d) (id : Identifier) (k : Nat) :
    Reads k identifier [d.nameLexeme id] (d.canonIdentifier id) AnyNext := by
  unfold identifier
  refine Reads.peek_bind fun t next _ ht => ?_
  have hkind : t.kind = (d.nameLexeme id).kind := congrArg Lexeme.kind ht
  rw [hkind]
  unfold Dialect.canonIdentifier
  cases hquotes : d.quotes id with
  | true =>
    have hlexeme : d.nameLexeme id = ⟨.quotedIdentifier,
        Quoting.writeName n.nameQuote n.nameQuote id.name⟩ := by
      unfold Dialect.nameLexeme Dialect.writeIdentifier
      rw [hquotes, hd.openingQuote, hd.closingQuote]
      rfl
    rw [hlexeme]
    refine Reads.advance_bind (m := k) (fun h => by cases h) (fun t ht => ?_) (Nat.le_succ k)
    have htext : t.text = Quoting.writeName n.nameQuote n.nameQuote id.name :=
      congrArg Lexeme.text ht
    rw [htext, Quoting.readName_writeName]
    exact Reads.pure k _ AnyNext
  | false =>
    have hlexeme : d.nameLexeme id = ⟨.word, id.name⟩ := by
      unfold Dialect.nameLexeme Dialect.writeIdentifier
      rw [hquotes]
      rfl
    rw [hlexeme]
    refine Reads.advance_bind (m := k) (fun h => by cases h) (fun t ht => ?_) (Nat.le_succ k)
    have htext : t.text = id.name := congrArg Lexeme.text ht
    rw [htext]
    exact Reads.pure k _ AnyNext

/-- The expression that a dotted name is. -/
def columnOf : List Identifier → Expr
  | [id] => .identifier id
  | ids => .compound ids

theorem reads_column (hd : n.Makes d) {ids : List Identifier} (hne : ids ≠ []) (k : Nat) :
    Reads k column (DialectName.dotted d ids) (columnOf (ids.map d.canonIdentifier))
      (fun next => next.kind ≠ .dot) := by
  obtain ⟨id, rest, rfl⟩ := List.exists_cons_of_ne_nil hne
  have hround : ∀ id', Reads k
      (do if ← Parser.consume .dot then return some (← identifier) else return none)
      [.dot, d.nameLexeme id'] (some (d.canonIdentifier id')) AnyNext := fun id' =>
    Reads.consume_bind_true (l := .dot) (fun h => by cases h)
      ((reads_identifier hd id' k).map_pure some) (Nat.le_succ k)
  have hrest : Reads k (Parser.many do
      if ← Parser.consume .dot then return some (← identifier) else return none)
      (rest.flatMap fun id => [.dot, d.nameLexeme id]) (rest.map d.canonIdentifier)
      (fun next => next.kind ≠ .dot) := by
    refine Reads.many (F := AnyNext) (fun id' _ => ⟨hround id', _, _, rfl, trivial⟩) ?_
      fun _ _ => trivial
    exact Reads.consume_bind_false (fun next hnext => hnext) (Reads.pure k none _)
  have hvalue : columnOf ((id :: rest).map d.canonIdentifier) =
      if (rest.map d.canonIdentifier).isEmpty then Expr.identifier (d.canonIdentifier id)
      else .compound (d.canonIdentifier id :: rest.map d.canonIdentifier) := by
    cases rest <;> rfl
  rw [hvalue]
  unfold column
  exact (reads_identifier hd id k).bind (hrest.map_pure fun names =>
      if names.isEmpty then Expr.identifier (d.canonIdentifier id)
      else .compound (d.canonIdentifier id :: names))
    (Nat.le_add_right k _) fun _ _ => trivial

/-! ## Bindings -/

/-- What may follow something that has no name. -/
def EndsNamed (next : Lexeme) : Prop :=
  next.isKeyword "AS" = false ∧ next.kind ≠ .word ∧ next.kind ≠ .quotedIdentifier

theorem reads_binding (hd : n.Makes d) (id : Identifier) (implicit : Bool) (k : Nat) :
    Reads k (binding implicit) [.keyword "AS", d.nameLexeme id] (some (d.canonIdentifier id))
      AnyNext :=
  Reads.consumeKeyword_bind_true ((reads_identifier hd id k).map_pure some) (Nat.le_succ k)

theorem reads_no_binding (implicit : Bool) (k : Nat) :
    Reads k (binding implicit) [] none EndsNamed := by
  refine Reads.consumeKeyword_bind_false (fun next hnext => hnext.1) ?_
  refine Reads.peek_bind fun t next hnext ht => ?_
  have hkind : t.kind = next.kind := congrArg Lexeme.kind ht
  have htest : (implicit && (t.kind == .word || t.kind == .quotedIdentifier)) = false := by
    rw [hkind, beq_eq_false_iff_ne.2 hnext.2.1, beq_eq_false_iff_ne.2 hnext.2.2]
    exact Bool.and_false implicit
  simp only [htest, Bool.false_eq_true, if_false]
  exact Reads.pure k none EndsNamed

/-! ## Strings -/

/-- **A string is read as the text that it was written for.** -/
theorem stringValue_of_lexeme (hd : n.Makes d) {t : Token} {value : String}
    (ht : t.lexeme = ⟨.stringLiteral, d.writeString value⟩) :
    stringValue d t = pure value := by
  have htext : t.text = d.writeString value := congrArg Lexeme.text ht
  unfold stringValue
  rw [htext, Dialect.writeString, hd.stringEscape?,
    Quoting.readString?_writeString n.stringEscape?_lexer]

/-! ## Digits -/

/-- The digits behind a mark of two bytes. -/
theorem digitsOf_of_toList {t : Token} (mark : List Char) {digits : List Char}
    (hmark : Text.byteLength mark = 2) (ht : t.text.toList = mark ++ digits) :
    digitsOf t = pure (.ofList digits) := by
  have hsplit := Text.splitAtByte?_append mark digits
  unfold digitsOf
  rw [ht, ← hmark, hsplit]

end Grammar

theorem DialectName.spells_string (hd : n.Makes d) (value : String) :
    n.lexer.Spells (d.writeString value) [⟨.stringLiteral, d.writeString value⟩] := by
  unfold Dialect.writeString
  rw [hd.stringEscape?]
  exact spells_of_takes (n.takes_string value) (Closes.forall nofun nofun nofun nofun) rfl

theorem DialectName.spells_numeral {text : String} (h : Lexical.isNumeral text.toList = true) :
    n.lexer.Spells text [⟨.numericLiteral, text⟩] :=
  spells_of_takes (n.takes_numeral h) endsNumeral_of_closes rfl

end SqlDialects
