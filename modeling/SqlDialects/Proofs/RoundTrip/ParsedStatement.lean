import SqlDialects.Proofs.RoundTrip.Leaf
import SqlDialects.Proofs.RoundTrip.Parsed
import SqlDialects.Translate

/-!
# Operands, queries and statements that are read are readable

Operands and queries refer to each other, and both to nested operands, of which it
is assumed here that they are readable.  Where the knot is tied the assumption
becomes an induction hypothesis.

About an operand there are two facts besides: it is at least as strong as it had to
be, and the parser stopped before any operator that it would have taken.  The first
is what an operand on the right needs to stand without brackets.  The second
becomes the same for an operand on the left: the operator behind it binds no more
tightly than it does, as otherwise an operand inside would have taken the operator.
-/

namespace SqlDialects

variable {n : DialectName} {d : Dialect}

namespace Grammar

section Query

variable {nested : Nat → Parser Expr} (hd : n.Makes d)
  (h : Gives n (nested 0) (Readable n n.Canonical .operand))

include h in
theorem gives_projection : Gives n (projection nested) (Readable n n.Canonical .element) :=
  h.bind fun _ he => (gives_binding true).bind fun name _ => Gives.pure (readable_bind he name)

include h in
theorem gives_sortKey :
    Gives n (sortKey nested) fun o => Readable n n.Canonical .operand o.this := by
  refine h.bind fun this hthis => (Gives.consumeKeyword "ASC").bind fun asc _ => ?_
  cases asc with
  | true => exact Gives.pure hthis
  | false =>
    refine (Gives.consumeKeyword "DESC").bind fun desc _ => ?_
    cases desc <;> exact Gives.pure hthis

/-- The words that change a table merge its rows, and only in one dialect. -/
theorem modifier_of_find? {key : String} {m : TableModifier}
    (hfind : n.draft.tableModifiers.find? key = some m) : m = .final ∧ n = .clickhouse := by
  have hall : ∀ e ∈ n.draft.tableModifiers, e.2 = .final ∧ n = .clickhouse := by
    cases n <;> decide
  exact hall _ (Table.mem_of_find?_eq_some hfind)

include hd in
theorem gives_tableModifier? :
    Gives n (tableModifier? d) fun o => ∀ m ∈ o, m = .final ∧ n = .clickhouse := by
  refine Gives.peek_bind fun t _ => Gives.at_of ?_ t
  rw [hd.tableModifiers]
  split
  · cases hfind : n.draft.tableModifiers.find? t.key with
    | some m =>
      refine Gives.advance.discard_bind (Gives.pure ?_)
      intro m' hm'
      cases hm'
      exact modifier_of_find? hfind
    | none => exact Gives.pure fun _ hm => absurd hm (Option.not_mem_none _)
  · exact Gives.pure fun _ hm => absurd hm (Option.not_mem_none _)

theorem readable_foldl_apply {ms : List TableModifier}
    (hms : ∀ m ∈ ms, m = .final ∧ n = .clickhouse) {e : Expr}
    (he : Readable n n.Canonical .table e) :
    Readable n n.Canonical .table (ms.foldl (fun e m => m.apply e) e) := by
  induction ms generalizing e with
  | nil => exact he
  | cons m ms ih =>
    obtain ⟨rfl, hn⟩ := hms m List.mem_cons_self
    exact ih (fun m' hm' => hms m' (List.mem_cons_of_mem _ hm')) (.final hn he)

include hd in
theorem gives_table {inner : Parser (Query Expr)}
    (hinner : Gives n inner fun q => Readable n n.Canonical .query (.select q)) :
    Gives n (table d inner) (Readable n n.Canonical .table) := by
  have hrest : ∀ this, Readable n n.Canonical .source this → Gives n (do
      let name ← binding true
      let modifiers ← Parser.many (tableModifier? d)
      return modifiers.foldl (fun e m => m.apply e) (bind this name))
      (Readable n n.Canonical .table) := by
    intro this hthis
    refine (gives_binding true).bind fun name _ => ?_
    refine (Gives.many (gives_tableModifier? hd)).bind fun ms hms => Gives.pure ?_
    exact readable_foldl_apply hms (readable_bind_source hthis name)
  refine Gives.check_bind fun opens => Gives.peekAhead_bind fun t => ?_
  show Gives n (if _ then _ else _) _
  split
  · refine Gives.advance.discard_bind (hinner.bind fun q hq => ?_)
    exact (Gives.expect _ _).discard_bind (hrest _ (.subquery hq))
  · exact gives_column.bind hrest

theorem gives_clause {α : Type} {P : α → Prop} (word : String) {rest : Parser α}
    (hrest : Gives n rest P) : Gives n (clause word rest) fun o => ∀ a ∈ o, P a := by
  refine (Gives.consumeKeyword word).bind fun found _ => ?_
  cases found with
  | true => exact hrest.bind fun a ha => Gives.pure fun a' ha' => Option.some.inj ha' ▸ ha
  | false => exact Gives.pure nofun

theorem gives_clauseBy {α : Type} {P : α → Prop} (word : String) {item : Parser α}
    (hitem : Gives n item P) : Gives n (clauseBy word item) fun as => ∀ a ∈ as, P a := by
  refine (Gives.consumeKeyword word).bind fun found _ => ?_
  cases found with
  | true =>
    exact (Gives.expectKeyword "BY").discard_bind ((Gives.csv hitem).mono fun _ has => has.2)
  | false => exact Gives.pure nofun

include hd h

theorem gives_queryLayer {inner : Parser (Query Expr)}
    (hinner : Gives n inner fun q => Readable n n.Canonical .query (.select q)) :
    Gives n (queryLayer d nested inner) fun q => Readable n n.Canonical .query (.select q) := by
  refine (Gives.expectKeyword "SELECT").discard_bind ?_
  refine (Gives.consumeKeyword "DISTINCT").bind fun distinct _ => ?_
  refine (Gives.csv (gives_projection h)).bind fun projections hprojections => ?_
  refine (gives_clause "FROM" (gives_table hd hinner)).bind fun source hsource => ?_
  refine (gives_clause "WHERE" h).bind fun filter hfilter => ?_
  refine (gives_clauseBy "GROUP" h).bind fun groupBy hgroupBy => ?_
  refine (gives_clause "HAVING" h).bind fun having hhaving => ?_
  refine (gives_clauseBy "ORDER" (gives_sortKey h)).bind fun orderBy horderBy => ?_
  refine (gives_clause "LIMIT" h).bind fun limit hlimit => Gives.pure ?_
  exact .select hprojections.1 hprojections.2 hsource hfilter hgroupBy hhaving horderBy hlimit

/-- **A query that is read is readable**, if its operands are. -/
theorem gives_query :
    Gives n (query d nested) fun q => Readable n n.Canonical .query (.select q) := by
  refine Gives.of_descend (p := fun _ : Unit => query d nested)
    (P := fun _ q => Readable n n.Canonical .query (.select q)) (fun c hinner hc _ q c' hq => ?_) ()
  rw [query] at hq
  exact gives_queryLayer hd h (hinner ()) c q c' hc hq

/-! ## Primaries -/

theorem gives_bracketed : Gives n (bracketed d nested) (IsPrimary n) := by
  refine (Gives.expect _ _).discard_bind (Gives.checkKeyword_bind fun isQuery => ?_)
  cases isQuery with
  | true =>
    refine (gives_query hd h).bind fun q hq => ?_
    exact (Gives.expect _ _).discard_bind (Gives.pure ⟨.source (.subquery hq), rfl⟩)
  | false =>
    refine (Gives.csvToEndBracket h).bind fun elements helements => ?_
    match elements with
    | [] => exact Gives.pure ⟨.tuple helements nofun, rfl⟩
    | [inner] => exact Gives.pure ⟨.paren (helements inner List.mem_cons_self), rfl⟩
    | _ :: _ :: _ => exact Gives.pure ⟨.tuple helements nofun, rfl⟩

omit hd h in
theorem gives_digitsOf {t : Token} {k : CharClass} {mark : Char} {digits : List Char}
    (ht : t.text.toList = '0' :: mark :: digits) (hmark : mark.utf8Size = 1)
    (hdigits : Clickhouse.isDigits k digits = true) :
    Gives n (digitsOf t) fun s => Clickhouse.isDigits k s.toList = true := by
  have hlength : Text.byteLength ['0', mark] = 2 := by
    rw [Text.byteLength_cons, Text.byteLength_cons, Text.byteLength_nil, hmark]
    rfl
  rw [digitsOf_of_toList _ hlength ht]
  refine Gives.pure ?_
  rw [String.toList_ofList]
  exact hdigits

omit hd h in
theorem readable_keywordLiteral? {t : Token} {value : Literal}
    (hvalue : keywordLiteral? t = some value) : ReadableLiteral n value := by
  unfold keywordLiteral? at hvalue
  split at hvalue
  · cases hvalue
    trivial
  · split at hvalue
    · cases hvalue
      trivial
    · split at hvalue
      · cases hvalue
        trivial
      · cases hvalue

theorem gives_primary : Gives n (primary d nested) (IsPrimary n) := by
  have hcolumn : Gives n column (IsPrimary n) := gives_column.mono fun e he =>
    ⟨.source he, by cases he <;> rfl⟩
  refine Gives.peek_bind fun t ht => ?_
  cases hkind : t.kind
  case numericLiteral =>
    refine Gives.at_of (Gives.advance.discard_bind ?_) t
    exact Gives.pure ⟨.literal (ht.numeral hkind), rfl⟩
  case stringLiteral =>
    refine Gives.at_of (Gives.advance.discard_bind ?_) t
    exact (gives_stringValue t).bind fun _ _ => Gives.pure ⟨.literal trivial, rfl⟩
  case hexStringLiteral =>
    obtain ⟨hn, mark, digits, htext, hmark, hdigits⟩ := ht.hex hkind
    refine Gives.at_of (Gives.advance.discard_bind ?_) t
    exact (gives_digitsOf htext hmark hdigits).bind fun s hs =>
      Gives.pure ⟨.literal ⟨hn, hs⟩, rfl⟩
  case bitStringLiteral =>
    obtain ⟨hn, mark, digits, htext, hmark, hdigits⟩ := ht.bits hkind
    refine Gives.at_of (Gives.advance.discard_bind ?_) t
    exact (gives_digitsOf htext hmark hdigits).bind fun s hs =>
      Gives.pure ⟨.literal ⟨hn, hs⟩, rfl⟩
  case star => exact (Gives.advance.discard_bind (Gives.pure ⟨.star, rfl⟩)).at_of t
  case keyword =>
    refine Gives.at_of ?_ t
    dsimp only
    split
    · rename_i value hvalue
      refine Gives.advance.discard_bind (Gives.pure ?_)
      exact ⟨.literal (readable_keywordLiteral? hvalue), rfl⟩
    · exact Gives.unexpected _ _
  case startBracket => exact (gives_bracketed hd h).at_of t
  case word =>
    refine Gives.at_of (Gives.peekAhead_bind fun next => ?_) t
    show Gives n (if _ then _ else _) _
    split
    · exact gives_call hd h
    · exact hcolumn
  case quotedIdentifier => exact hcolumn.at_of t
  all_goals exact (Gives.unexpected _ _).at_of t

end Query

/-! ## Operations -/

/-- An operand that was read as one of operators that bind at least so tightly. -/
structure IsOperand (n : DialectName) (least : Nat) (e : Expr) : Prop where
  readable : Readable n n.Canonical .operand e
  le_strength : least ≤ 8 → least ≤ e.strength

section Operations

variable {nested : Nat → Parser Expr} (hd : n.Makes d)
  (h : ∀ least, Gives n (nested least) (IsOperand n least))
  (hstop : ∀ least c e c', nested least c = .ok e c' → StopsBelow least c')

include hd h hstop

/-- An operand before any operator behind it: none that is there would be taken by an operand
inside. -/
theorem of_prefixed {least : Nat} {c c' : Cursor} {e : Expr} (hc : c.Sound n)
    (he : prefixed d nested least c = .ok e c') :
    c'.Sound n ∧ IsOperand n least e ∧ StopsBelow (e.strength + 1) c' := by
  cases hop : unaryOperator? c.current with
  | none =>
    rw [prefixed_of_none hop] at he
    obtain ⟨hc', hprimary⟩ :=
      gives_primary hd ((h 0).mono fun _ he => he.readable) c e c' hc he
    refine ⟨hc', ⟨hprimary.readable, fun hleast => ?_⟩, fun op _ => ?_⟩
    · rw [hprimary.strength]
      omega
    · rw [hprimary.strength]
      have hle := op.precedence_le
      omega
  | some op =>
    by_cases hnot : op = .not → least ≤ 3
    · rw [prefixed_of_some hop hnot] at he
      obtain ⟨inner, c₁, hinner, hpure⟩ := Parser.bind_eq_ok.1 he
      cases hpure
      obtain ⟨hc', hoperand⟩ := h op.precedence c.advance inner _ hc.advance hinner
      have hle := hoperand.le_strength (by cases op <;> decide)
      refine ⟨hc', ⟨.unary hoperand.readable (Expr.needsBrackets_of_le_strength hle), ?_⟩, ?_⟩
      · intro hleast
        show least ≤ op.precedence
        cases op with
        | not => exact hnot rfl
        | minus => exact hleast
        | plus => exact hleast
      · exact (hstop _ _ _ _ hinner).mono (Nat.le_succ _)
    · obtain ⟨rfl, hleast⟩ := Classical.not_imp.1 hnot
      rw [prefixed_of_not hop (Nat.lt_of_not_le hleast)] at he
      cases he

omit hd in
/-- What is gathered is an operand at every round, if it was one before. -/
theorem of_climbFrom {least : Nat} {c c' : Cursor} {first e : Expr} (hc : c.Sound n)
    (hfirst : IsOperand n least first) (hends : StopsBelow (first.strength + 1) c)
    (he : climbFrom nested least first c = .ok e c') : c'.Sound n ∧ IsOperand n least e := by
  generalize hk : c.remaining = k
  induction k using Nat.strongRecOn generalizing c first with
  | ind k ih =>
    rcases stopsBelow_or_exists least c with hstops | ⟨op, hop, hle⟩
    · rw [climbFrom_of_stopsBelow hstops] at he
      cases he
      exact ⟨hc, hfirst⟩
    · rw [climbFrom_of_le hop hle] at he
      cases hright : nested (op.precedence + 1) c.advance with
      | error failure c₁ =>
        rw [hright] at he
        cases he
      | ok right c₁ =>
        simp only [hright] at he
        split at he
        · rename_i hlt
          have hprecedence := op.precedence_le
          obtain ⟨hc₁, hoperand⟩ := h _ c.advance right c₁ hc.advance hright
          have hleft : op.precedence ≤ first.strength := Nat.le_of_lt_succ (hends op hop)
          have hstrong : op.precedence + 1 ≤ right.strength := hoperand.le_strength (by omega)
          have hbinary : IsOperand n least (.binary first op right) :=
            ⟨.binary hfirst.readable hoperand.readable (Expr.needsBrackets_of_le_strength hleft)
              (Expr.needsBrackets_of_lt_strength hstrong), fun _ => hle⟩
          exact ih c₁.remaining (hk ▸ hlt) hc₁ hbinary (hstop _ _ _ _ hright) he rfl
        · cases he

theorem gives_layer (least : Nat) : Gives n (layer d nested least) (IsOperand n least) := by
  intro c e c' hc he
  rw [layer_eq_bind] at he
  obtain ⟨first, c₁, hfirst, hclimb⟩ := Parser.bind_eq_ok.1 he
  obtain ⟨hc₁, hoperand, hends⟩ := of_prefixed hd h hstop hc hfirst
  exact of_climbFrom h hstop hc₁ hoperand hends hclimb

end Operations

/-- **An operand that is read is readable.** -/
theorem gives_operand (hd : n.Makes d) (least : Nat) :
    Gives n (operand d least) (IsOperand n least) := by
  refine Gives.of_descend (fun c hnested hc least e c' he => ?_) least
  rw [operand_eq_layer] at he
  refine gives_layer hd hnested (fun least c₁ e c₂ hinner => ?_) least c e c' hc he
  unfold Parser.descend at hinner
  split at hinner
  · exact stopsBelow_of_operand hinner
  · cases hinner

/-! ## Statements -/

theorem gives_statement (hd : n.Makes d) :
    Gives n (statement d) (ReadableStatement n n.Canonical) := by
  have hoperand := (gives_operand hd 0).mono fun _ he => he.readable
  refine Gives.checkKeyword_bind fun isQuery => ?_
  cases isQuery with
  | true => exact (gives_query hd hoperand).bind fun q hq => Gives.pure (Or.inl hq)
  | false => exact (gives_namedExpression hoperand).mono fun _ he => Or.inr he

theorem gives_nextStatement? (hd : n.Makes d) :
    Gives n (nextStatement? d) fun o => ∀ e ∈ o, ReadableStatement n n.Canonical e := by
  have hsemicolon : Gives n semicolon? fun o => ∀ u ∈ o, True :=
    (Gives.consume .semicolon).bind fun _ _ => Gives.pure fun _ _ => trivial
  refine (Gives.many hsemicolon).discard_bind (Gives.check_bind fun ended => ?_)
  cases ended with
  | true => exact Gives.pure nofun
  | false =>
    refine (gives_statement hd).bind fun e he => Gives.peek_bind fun t _ => Gives.at_of ?_ t
    show Gives n (if _ then _ else _) _
    split
    · exact Gives.pure fun e' he' => Option.some.inj he' ▸ he
    · exact Gives.unexpected _ _

theorem gives_statements (hd : n.Makes d) :
    Gives n (statements d) fun es => ∀ e ∈ es, ReadableStatement n n.Canonical e :=
  (Gives.many (gives_nextStatement? hd)).bind fun _ hes =>
    (Gives.note _).bind fun _ _ => Gives.pure hes

end Grammar

theorem Cursor.sound_ofTokens {tokens : List Token} (h : ∀ t ∈ tokens, t.lexeme.Taken n) :
    (Cursor.ofTokens tokens).Sound n := by
  have hcomplete : ∀ t ∈ Cursor.complete tokens, t.lexeme.Taken n := by
    intro t ht
    unfold Cursor.complete at ht
    split at ht
    · rw [List.mem_singleton.1 ht]
      exact Lexeme.taken_endOfFile n
    · split at ht
      · exact h t ht
      · rcases List.mem_append.1 ht with ht | ht
        · exact h t ht
        · rw [List.mem_singleton.1 ht]
          exact Lexeme.taken_endOfFile n
  unfold Cursor.ofTokens
  split
  · rename_i hnil
    exact absurd hnil (Cursor.complete_ne_nil tokens)
  · rename_i first rest hcons
    intro t ht
    exact hcomplete t (hcons ▸ ht)

/-- What a parser gives for the tokens of a text holds of the outcome of running it. -/
theorem Gives.of_run {α : Type} {p : Parser α} {P : α → Prop} (hp : Gives n p P) (hd : n.Makes d)
    {text : String} {a : α}
    (h : (d.lex text >>= fun tokens => Parser.run p tokens).outcome = .ok a) : P a := by
  unfold Dialect.lex at h
  rw [hd.lexer?] at h
  cases hlex : n.lexer.lex text with
  | error failure =>
    simp only [hlex] at h
    cases h
  | ok tokens =>
    simp only [hlex] at h
    have hsound := Cursor.sound_ofTokens (DialectName.taken_of_lex hlex)
    change (Parser.run p tokens).outcome = .ok a at h
    unfold Parser.run at h
    cases hrun : p (Cursor.ofTokens tokens) with
    | ok b c =>
      simp only [hrun] at h
      cases h
      exact (hp _ _ _ hsound hrun).2
    | error failure c =>
      simp only [hrun] at h
      cases failure <;> cases h

/-- **Whatever a built-in dialect reads is readable**, with type names that it resolves to
themselves. -/
theorem readable_of_parse (hd : n.Makes d) {text : String} {es : List Expr}
    (h : (d.parse text).outcome = .ok es) : ∀ e ∈ es, ReadableStatement n n.Canonical e :=
  (Grammar.gives_statements hd).of_run hd h

end SqlDialects
