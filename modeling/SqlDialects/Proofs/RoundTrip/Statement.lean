import SqlDialects.Proofs.RoundTrip.Queries
import SqlDialects.Translate

/-!
# What is readable comes back

The induction over readable expressions puts together what was shown for each
form.  At every kind of place something else is to be shown, as an operand is read
in other company than a table is; `Written` says what.

For a statement that leaves only the end of the text to see, where a single
statement has to stop.  So a statement that is readable is written as a text, and
this text is read as the canonical form of the statement and nothing else
(`exists_write_parseOne`).
-/

namespace SqlDialects

variable {n : DialectName} {d : Dialect}

/-- What is written at a place comes back there. -/
def Written (n : DialectName) (d : Dialect) : Position → Expr → Prop
  | .source, e => ∃ s, WrittenSource n d e s
  | .operand, e => ∃ s, WrittenOperand n d e s
  | .element, e => ∃ s, WrittenElement n d e s
  | .table, e => ∃ s, WrittenTable n d e s
  | .query, e => ∃ q s, e = .select q ∧ WrittenQuery n d q s

section Parts

/-- Where everything under a list is written, the list is one half of a list of pairs. -/
theorem exists_written_option {P : Expr → Spelling → Prop} {o : Option Expr}
    (h : ∀ e ∈ o, ∃ s, P e s) :
    ∃ o' : Option (Expr × Spelling), o'.map (·.1) = o ∧ ∀ i ∈ o', P i.1 i.2 := by
  cases o with
  | none => exact ⟨none, rfl, nofun⟩
  | some e =>
    obtain ⟨s, hs⟩ := h e rfl
    refine ⟨some (e, s), rfl, fun i hi => ?_⟩
    cases hi
    exact hs

theorem exists_written_ordered {P : Expr → Spelling → Prop} {os : List (Ordered Expr)}
    (h : ∀ o ∈ os, ∃ s, P o.this s) :
    ∃ keys : List (Ordered (Expr × Spelling)), keys.map (·.map (·.1)) = os ∧
      ∀ key ∈ keys, P key.this.1 key.this.2 := by
  obtain ⟨items, rfl, hitems⟩ := exists_items h
  refine ⟨items.map fun i => ⟨(i.1.this, i.2), i.1.direction⟩, ?_, ?_⟩
  · rw [List.map_map]
    rfl
  · intro key hkey
    obtain ⟨i, hi, rfl⟩ := List.mem_map.1 hkey
    exact hitems i hi

/-- A query whose parts are all written is one half of such a query of pairs. -/
theorem exists_writtenParts {q : Query Expr} (hne : q.projections ≠ [])
    (hprojection : ∀ e ∈ q.projections, ∃ s, WrittenElement n d e s)
    (hsource : ∀ e ∈ q.source, ∃ s, WrittenTable n d e s)
    (hfilter : ∀ e ∈ q.filter, ∃ s, WrittenOperand n d e s)
    (hgroupBy : ∀ e ∈ q.groupBy, ∃ s, WrittenOperand n d e s)
    (hhaving : ∀ e ∈ q.having, ∃ s, WrittenOperand n d e s)
    (horderBy : ∀ o ∈ q.orderBy, ∃ s, WrittenOperand n d o.this s)
    (hlimit : ∀ e ∈ q.limit, ∃ s, WrittenOperand n d e s) :
    ∃ q' : Query (Expr × Spelling), q'.map (·.1) = q ∧ WrittenParts n d q' := by
  obtain ⟨distinct, projections, source, filter, groupBy, having, orderBy, limit⟩ := q
  obtain ⟨projections, rfl, h₁⟩ := exists_items hprojection
  obtain ⟨source, rfl, h₂⟩ := exists_written_option hsource
  obtain ⟨filter, rfl, h₃⟩ := exists_written_option hfilter
  obtain ⟨groupBy, rfl, h₄⟩ := exists_items hgroupBy
  obtain ⟨having, rfl, h₅⟩ := exists_written_option hhaving
  obtain ⟨orderBy, rfl, h₆⟩ := exists_written_ordered horderBy
  obtain ⟨limit, rfl, h₇⟩ := exists_written_option hlimit
  refine ⟨⟨distinct, projections, source, filter, groupBy, having, orderBy, limit⟩, rfl, ?_⟩
  refine ⟨?_, h₁, h₂, h₃, h₄, h₅, h₆, h₇⟩
  exact fun hnil => hne (congrArg (List.map (·.1)) hnil)

end Parts

/-- **Whatever is readable comes back** in its canonical form. -/
theorem Readable.written (hd : n.Makes d) {place : Position} {e : Expr}
    (h : Readable n n.SpellsType place e) : Written n d place e := by
  induction h with
  | identifier id => exact ⟨_, writtenSource_identifier hd id⟩
  | compound hparts => exact ⟨_, writtenSource_compound hd hparts⟩
  | subquery _ ih =>
    obtain ⟨q, s, hq, hs⟩ := ih
    cases hq
    exact ⟨_, writtenSource_subquery hd hs⟩
  | source _ ih =>
    obtain ⟨s, hs⟩ := ih
    exact ⟨s, hs.toWrittenOperand⟩
  | literal hvalue => exact ⟨_, writtenOperand_literal hd hvalue⟩
  | star => exact ⟨_, writtenOperand_star hd⟩
  | binary _ _ hopen hopen' ihleft ihright =>
    obtain ⟨s, hs⟩ := ihleft
    obtain ⟨t, ht⟩ := ihright
    exact ⟨_, writtenOperand_binary hd hs ht hopen hopen'⟩
  | unary _ hopen ih =>
    obtain ⟨s, hs⟩ := ih
    exact ⟨_, writtenOperand_unary hd hs hopen⟩
  | paren _ ih =>
    obtain ⟨s, hs⟩ := ih
    exact ⟨_, writtenOperand_paren hd hs⟩
  | tuple _ hlength ih =>
    obtain ⟨items, rfl, hitems⟩ := exists_items ih
    rw [List.length_map] at hlength
    exact ⟨_, writtenOperand_tuple hd hitems hlength⟩
  | call hcall _ ih =>
    obtain ⟨items, rfl, hitems⟩ := exists_items ih
    exact ⟨_, writtenOperand_call hd hcall hitems⟩
  | struct surface hn _ ih =>
    obtain ⟨items, rfl, hitems⟩ := exists_items ih
    exact ⟨_, writtenOperand_struct hd hn hitems surface⟩
  | cast _ htarget ih =>
    obtain ⟨s, hs⟩ := ih
    obtain ⟨ls, hls⟩ := Grammar.writtenType hd htarget
    exact ⟨_, writtenOperand_cast hd hs hls⟩
  | approxDistinct _ ih =>
    obtain ⟨s, hs⟩ := ih
    exact exists_writtenOperand_approxDistinct hd hs
  | anyValue _ ih =>
    obtain ⟨s, hs⟩ := ih
    exact exists_writtenOperand_anyValue hd hs
  | regexpLike _ _ ihthis ihpattern =>
    obtain ⟨s, hs⟩ := ihthis
    obtain ⟨t, ht⟩ := ihpattern
    exact exists_writtenOperand_regexpLike hd hs ht
  | quantile hn _ _ ihthis ihlevel =>
    subst hn
    obtain ⟨s, hs⟩ := ihthis
    obtain ⟨t, ht⟩ := ihlevel
    exact ⟨_, writtenOperand_quantile hd hs ht⟩
  | varMap hn hlength _ _ ihkeys ihvalues =>
    subst hn
    obtain ⟨keys, rfl, hkeys⟩ := exists_items ihkeys
    obtain ⟨values, rfl, hvalues⟩ := exists_items ihvalues
    rw [List.length_map, List.length_map] at hlength
    exact ⟨_, writtenOperand_varMap hd hlength hkeys hvalues⟩
  | element _ ih =>
    obtain ⟨s, hs⟩ := ih
    exact ⟨s, hs.element⟩
  | named he name ih =>
    obtain ⟨s, hs⟩ := ih
    exact ⟨_, hs.named hd (he.kind_ne_aliased (Or.inr rfl)) name⟩
  | table _ ih =>
    obtain ⟨s, hs⟩ := ih
    exact ⟨s, hs.table⟩
  | namedTable he name ih =>
    obtain ⟨s, hs⟩ := ih
    exact ⟨_, hs.namedTable hd (he.kind_ne_aliased (Or.inl rfl)) name⟩
  | final hn _ ih =>
    subst hn
    obtain ⟨s, hs⟩ := ih
    exact ⟨_, hs.final hd⟩
  | select hne _ _ _ _ _ _ _ ih₁ ih₂ ih₃ ih₄ ih₅ ih₆ ih₇ =>
    obtain ⟨q, rfl, hq⟩ := exists_writtenParts hne ih₁ ih₂ ih₃ ih₄ ih₅ ih₆ ih₇
    exact ⟨_, _, rfl, hq.writtenQuery hd⟩

/-! ## From texts to cursors -/

/-- The cursor on the first of some tokens is before their lexemes, if they are complete. -/
theorem Cursor.lexemes_ofTokens {tokens : List Token} {ls : List Lexeme}
    (h : tokens.map Token.lexeme = ls ++ [.endOfFile]) :
    (Cursor.ofTokens tokens).lexemes = ls ++ [.endOfFile] := by
  obtain ⟨init, last, rfl⟩ : ∃ init last, tokens = init ++ [last] := by
    rcases List.eq_nil_or_concat tokens with rfl | h'
    · cases ls <;> cases h
    · simpa using h'
  rw [List.map_append, List.map_singleton] at h
  have hlast : last.lexeme = .endOfFile := (List.cons.inj (List.append_inj_right' h rfl)).1
  have hkind : last.kind = .endOfFile := congrArg Lexeme.kind hlast
  have hcomplete : Cursor.complete (init ++ [last]) = init ++ [last] := by
    unfold Cursor.complete
    rw [List.getLast?_concat]
    exact if_pos hkind
  unfold Cursor.ofTokens
  rw [hcomplete]
  cases init with
  | nil => exact h
  | cons t init =>
    rw [← h]
    show t.lexeme :: (init ++ [last]).map Token.lexeme = _
    rw [List.map_append]
    rfl

/-- A text that a built-in dialect can cut is parsed from the cursor before its lexemes. -/
theorem DialectName.Makes.exists_cursor (hd : n.Makes d) {text : String} {ls : List Lexeme}
    (h : n.lexer.lexemes? text.toList = some ls) :
    ∃ c : Cursor, c.lexemes = ls ++ [.endOfFile] ∧
      (∀ e c', Grammar.onlyStatement d c = .ok e c' → (d.parseOne text).outcome = .ok e) := by
  obtain ⟨tokens, hlex, hlexemes⟩ := Lexer.lexemes?_eq_some.1 h
  refine ⟨Cursor.ofTokens tokens, Cursor.lexemes_ofTokens hlexemes, fun e c' hparse => ?_⟩
  have htokens : (d.lex text).outcome = .ok tokens := by
    unfold Dialect.lex
    rw [hd.lexer?]
    simp only [hlex]
    rfl
  unfold Dialect.parseOne
  rw [Traced.outcome_bind_of_ok htokens]
  unfold Parser.run
  simp only [hparse]

/-! ## Statements -/

namespace Grammar

theorem nested_operand (d : Dialect) (k : Nat) : Nested d (operand d) k := fun _ _ _ => rfl

theorem reads_statement_query {q : Query Expr} {s : Spelling} (h : WrittenQuery n d q s) (k : Nat) :
    Reads k (statement d) s.lexemes (.select (d.canonQuery q)) EndsQuery := by
  have hquery := h.reads (operand d) k (nested_operand d k)
  obtain ⟨ms, hms⟩ := h.first
  refine Reads.checkKeyword_bind true (fun next _ => ?_) (hquery.map_pure Expr.select)
  rw [hms]
  exact Reads.isKeyword_of_lexeme (t := (Lexeme.keyword "SELECT").token) rfl

theorem reads_statement_element {e : Expr} {s : Spelling} (h : WrittenElement n d e s) (k : Nat) :
    Reads k (statement d) s.lexemes (d.canon e) EndsQuery := by
  have helement := h.reads (operand d) k (nested_operand d k) false
  obtain ⟨l, ms, hms, hl⟩ := h.first
  refine Reads.checkKeyword_bind false (fun next _ => ?_) ?_
  · rw [hms]
    exact hl.notSelect
  · refine helement.mono (Nat.le_refl k) fun next hnext => ?_
    have hclause : EndsClause 6 next := Or.inl hnext
    exact hclause.endsElement

/-- A statement at the end of a text is the only one. -/
theorem onlyStatement_of_reads {ls : List Lexeme} {e : Expr} {c : Cursor}
    (h : ∀ k, Reads k (statement d) ls e EndsQuery) (hc : c.lexemes = ls ++ [.endOfFile]) :
    ∃ c', onlyStatement d c = .ok e c' := by
  obtain ⟨c₁, hstatement, hc₁⟩ := h (c.remaining + 1) c .endOfFile [] (Nat.lt_succ_self _) hc
    (Or.inr (Or.inr rfl))
  have hkind : c₁.current.kind = .endOfFile := congrArg Lexeme.kind (Cursor.lexeme_current hc₁)
  have hconsume : discard (Parser.consume .semicolon) c₁ = .ok () c₁ := by
    have hrun : Parser.consume .semicolon c₁ = .ok false c₁ := by
      rw [Parser.consume_run, hkind]
      rfl
    rw [Parser.discard_run, Parser.bind_of_ok hrun]
    rfl
  have hexpect : discard (Parser.expect .endOfFile "end of input") c₁ = .ok () c₁.advance := by
    have hrun : Parser.expect .endOfFile "end of input" c₁ = .ok c₁.current c₁.advance := by
      rw [Parser.expect_run, hkind]
      rfl
    rw [Parser.discard_run, Parser.bind_of_ok hrun]
    rfl
  refine ⟨c₁.advance, ?_⟩
  unfold onlyStatement
  rw [Parser.bind_of_ok hstatement, Parser.bind_of_ok hconsume, Parser.bind_of_ok hexpect]
  rfl

end Grammar

/-- What is written is what is rendered. -/
theorem Dialect.outcome_write_eq_ok {e : Expr} {s : String} :
    (d.write e).outcome = .ok s ↔ (d.render e).outcome = .ok s := by
  unfold write
  rw [Traced.outcome_mapError]
  cases (d.render e).outcome with
  | error failure => exact ⟨nofun, nofun⟩
  | ok text =>
    exact ⟨fun h => congrArg Except.ok (Except.ok.inj h),
      fun h => congrArg Except.ok (Except.ok.inj h)⟩

/-- **A readable statement is written, and what is written is read as its canonical form.** -/
theorem exists_write_parseOne (hd : n.Makes d) {e : Expr}
    (h : ReadableStatement n n.SpellsType e) :
    ∃ s, (d.write e).outcome = .ok s ∧ (d.parseOne s).outcome = .ok (d.canon e) := by
  have hstatement : ∃ s : Spelling, (d.render e).outcome = .ok s.text ∧
      n.lexer.Spells s.text s.lexemes ∧
      ∀ k, Reads k (Grammar.statement d) s.lexemes (d.canon e) Grammar.EndsQuery := by
    rcases h with h | h
    · obtain ⟨q, s, rfl, hs⟩ := h.written hd
      refine ⟨s, ?_, hs.spells, fun k => ?_⟩
      · rw [hd.render_plain _ rfl]
        exact hs.renders
      · rw [Dialect.canon_mk]
        exact Grammar.reads_statement_query hs k
    · obtain ⟨s, hs⟩ := h.written hd
      exact ⟨s, hs.renders, hs.spells, Grammar.reads_statement_element hs⟩
  obtain ⟨s, hrender, hspells, hreads⟩ := hstatement
  obtain ⟨c, hc, hparse⟩ := hd.exists_cursor hspells.lexemes?_eq
  obtain ⟨c', honly⟩ := Grammar.onlyStatement_of_reads hreads hc
  exact ⟨s.text, Dialect.outcome_write_eq_ok.2 hrender, hparse _ c' honly⟩

end SqlDialects
