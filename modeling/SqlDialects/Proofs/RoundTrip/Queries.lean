import SqlDialects.Proofs.RoundTrip.Clauses

/-!
# Tables and queries come back

A table is a dotted name or a query in brackets, then a name for it, and then any
number of words that change it.  The parser gathers these words in a loop, so what
is said about a table is, as for operands, that its lexemes lead the parser to
where that loop stands with it.

A query is one clause after another, each read before what may follow the clauses
up to it.
-/

namespace SqlDialects

variable {n : DialectName} {d : Dialect}

namespace Grammar

/-! ## Parsing tables -/

/-- A table before any name and any modifier; `query` parses the query that it may be. -/
def tableSource (query : Parser (Query Expr)) : Parser Expr := do
  let opens ← Parser.check .startBracket
  let next ← Parser.peekAhead 1
  if opens && next.isKeyword "SELECT" then do
    discard Parser.advance
    let inner ← query
    discard Parser.expectEndBracket
    return .subquery inner
  else
    column

/-- A table and the modifiers that follow. -/
def modified (d : Dialect) (e : Expr) : Parser Expr := do
  let modifiers ← Parser.many (tableModifier? d)
  return modifiers.foldl (fun e m => m.apply e) e

theorem table_eq_bind (d : Dialect) (query : Parser (Query Expr)) :
    table d query = tableSource query >>= fun this =>
      binding true >>= fun name => modified d (bind this name) := by
  unfold table tableSource modified
  simp only [bind_assoc]
  congr 1
  funext opens
  congr 1
  funext next
  split
  · simp only [bind_assoc, pure_bind]
  · rfl

/-- Below `k`, `inner` parses queries. -/
def InnerQuery (d : Dialect) (inner : Parser (Query Expr)) (k : Nat) : Prop :=
  ∃ nested, Nested d nested k ∧ ∀ c, c.remaining < k → inner c = query d nested c

/-- The lexemes of a query are read as it. -/
def ReadsQuery (d : Dialect) (ls : List Lexeme) (q : Query Expr) : Prop :=
  ∀ nested k, Nested d nested k → Reads k (query d nested) ls q EndsQuery

theorem ReadsQuery.reads_inner {ls : List Lexeme} {q : Query Expr} {k : Nat}
    {inner : Parser (Query Expr)} (h : ReadsQuery d ls q) (hinner : InnerQuery d inner k) :
    Reads k inner ls q EndsQuery := by
  obtain ⟨nested, hnested, hagree⟩ := hinner
  exact (h nested k hnested).of_agree hagree

/-- What may follow a table. -/
def EndsTable (next : Lexeme) : Prop := next.kind ≠ .dot ∧ EndsNamed next

/-- The lexemes of a table lead the parser to where the loop stands with it. -/
def ReadsTable (d : Dialect) (ls : List Lexeme) (e : Expr) : Prop :=
  ∀ inner k, InnerQuery d inner k → ∀ c next rest, c.remaining < k →
    c.lexemes = ls ++ next :: rest → EndsTable next →
      ∃ c', table d inner c = modified d e c' ∧ c'.lexemes = next :: rest

end Grammar

/-- What is a table and an operand is written so that it is read back as either. -/
structure WrittenSource (n : DialectName) (d : Dialect) (e : Expr) (s : Spelling) : Prop
    extends WrittenOperand n d e s where
  reads_source : ∀ inner k, Grammar.InnerQuery d inner k →
    Reads k (Grammar.tableSource inner) s.lexemes (d.canon e) (fun next => next.kind ≠ .dot)

/-- A table is written so that it is read back in its canonical form. -/
structure WrittenTable (n : DialectName) (d : Dialect) (e : Expr) (s : Spelling) : Prop where
  renders : (d.render e).outcome = .ok s.text
  spells : n.lexer.Spells s.text s.lexemes
  reads : Grammar.ReadsTable d s.lexemes (d.canon e)

/-- A query is written so that it is read back in its canonical form. -/
structure WrittenQuery (n : DialectName) (d : Dialect) (q : Query Expr) (s : Spelling) : Prop where
  renders : (Render.query (q.map fun e => (e, d.render e))).outcome = .ok s.text
  spells : n.lexer.Spells s.text s.lexemes
  first : ∃ ms, s.lexemes = .keyword "SELECT" :: ms
  reads : Grammar.ReadsQuery d s.lexemes (d.canonQuery q)

/-! ## Sources -/

namespace Grammar

theorem reads_tableSource_column (hd : n.Makes d) {ids : List Identifier} (hne : ids ≠ [])
    (inner : Parser (Query Expr)) (k : Nat) :
    Reads k (tableSource inner) (DialectName.dotted d ids) (columnOf (ids.map d.canonIdentifier))
      (fun next => next.kind ≠ .dot) := by
  obtain ⟨id, rest, rfl⟩ := List.exists_cons_of_ne_nil hne
  have hopens : ((d.nameLexeme id).kind == .startBracket) = false :=
    beq_eq_false_iff_ne.2 (d.kind_nameLexeme_ne id (by decide) (by decide))
  refine Reads.check_bind _ (fun next _ => hopens) ?_
  refine Reads.peekAhead_bind fun t next _ _ => ?_
  exact reads_column hd hne k

theorem reads_tableSource_subquery {ls : List Lexeme} {q : Query Expr}
    {inner : Parser (Query Expr)} {k : Nat} (h : ReadsQuery d ls q) (hinner : InnerQuery d inner k)
    (hfirst : ∃ ms, ls = .keyword "SELECT" :: ms) :
    Reads k (tableSource inner) (Lexeme.bracketed ls) (.subquery q) AnyNext := by
  have hquery := h.reads_inner hinner
  obtain ⟨ms, rfl⟩ := hfirst
  refine Reads.check_bind _ (fun next _ => rfl) ?_
  refine Reads.peekAhead_bind fun t next _ ht => ?_
  have hselect : t.isKeyword "SELECT" = true := Reads.isKeyword_of_lexeme ht
  rw [hselect]
  refine Reads.discard_advance_bind (m := k) nofun ?_ (Nat.le_succ k)
  refine hquery.bind (m := k) ?_ (Nat.le_add_right k _) fun _ _ => Or.inl rfl
  exact Reads.discard_expect_bind (l := .endBracket) (m := k) nofun (Reads.pure k _ _)
    (Nat.le_succ k)

/-- A query in brackets is read as a primary. -/
theorem readsOperand_subquery {ls : List Lexeme} {q : Query Expr} (h : ReadsQuery d ls q)
    (hfirst : ∃ ms, ls = .keyword "SELECT" :: ms) :
    ReadsOperand d (Lexeme.bracketed ls) (.subquery q) 9 := by
  refine readsOperand_primary ⟨_, _, rfl, rfl⟩ fun nested k hnested => ?_
  have hquery := h nested k hnested
  obtain ⟨ms, rfl⟩ := hfirst
  refine Reads.peek_bind fun t next _ ht => ?_
  have hkind : t.kind = .startBracket := congrArg Lexeme.kind ht
  rw [hkind]
  refine Reads.discard_expect_bind (l := .startBracket) (m := k) nofun ?_ (Nat.le_refl _)
  refine Reads.checkKeyword_bind _
    (fun next _ => Reads.isKeyword_of_lexeme (t := (Lexeme.keyword "SELECT").token) rfl) ?_
  refine hquery.bind (m := k) ?_ (Nat.le_add_right k _) fun _ _ => Or.inl rfl
  exact Reads.discard_expect_bind (l := .endBracket) (m := k) nofun (Reads.pure k _ _)
    (Nat.le_succ k)

end Grammar

theorem writtenSource_identifier (hd : n.Makes d) (id : Identifier) :
    WrittenSource n d (.identifier id) (.dotted d [id]) where
  toWrittenOperand := writtenOperand_identifier hd id
  reads_source := fun inner k _ =>
    Grammar.reads_tableSource_column hd (List.cons_ne_nil id []) inner k

theorem writtenSource_compound (hd : n.Makes d) {parts : List Identifier}
    (hparts : 2 ≤ parts.length) : WrittenSource n d (.compound parts) (.dotted d parts) where
  toWrittenOperand := writtenOperand_compound hd hparts
  reads_source := fun inner k _ => by
    match parts, hparts with
    | id :: id' :: rest, _ =>
      exact Grammar.reads_tableSource_column hd (List.cons_ne_nil id (id' :: rest)) inner k

/-- **A query in brackets comes back.** -/
theorem writtenSource_subquery (hd : n.Makes d) {q : Query Expr} {s : Spelling}
    (h : WrittenQuery n d q s) : WrittenSource n d (.subquery q) s.bracketed where
  renders := by
    rw [hd.render_plain _ rfl]
    exact Traced.outcome_bind_of_ok h.renders _
  spells := DialectName.spells_bracketed h.spells.cuts
  first := ⟨_, _, rfl, Grammar.startsOperand_startBracket⟩
  reads := by
    rw [Dialect.canon_mk]
    exact Grammar.readsOperand_subquery h.reads h.first
  reads_source := fun inner k hinner => by
    rw [Dialect.canon_mk]
    exact (Grammar.reads_tableSource_subquery h.reads hinner h.first).mono (Nat.le_refl k)
      fun _ _ => trivial

/-! ## Tables -/

namespace Grammar

/-- A table that nothing follows which could change it. -/
theorem modified_of_find?_eq_none {e : Expr} {c : Cursor}
    (h : c.current.kind = .keyword → d.tableModifiers.find? c.current.key = none) :
    modified d e c = .ok e c := by
  have hnone : tableModifier? d c = .ok none c := by
    unfold tableModifier?
    rw [Parser.bind_of_ok (Parser.peek_run c)]
    by_cases hkind : c.current.kind = .keyword
    · rw [if_pos (beq_iff_eq.2 hkind), h hkind]
      rfl
    · rw [if_neg (fun heq => hkind (beq_iff_eq.1 heq))]
      rfl
  exact Parser.bind_of_ok (Parser.many_of_none hnone)

/-- One modifier is one round of the loop. -/
theorem modified_of_find?_eq_some {e : Expr} {m : TableModifier} {c : Cursor}
    (hkind : c.current.kind = .keyword) (hm : d.tableModifiers.find? c.current.key = some m)
    (hlt : c.advance.remaining < c.remaining) :
    modified d e c = modified d (m.apply e) c.advance := by
  have hsome : tableModifier? d c = .ok (some m) c.advance := by
    unfold tableModifier?
    rw [Parser.bind_of_ok (Parser.peek_run c), if_pos (beq_iff_eq.2 hkind), hm]
    rfl
  unfold modified
  cases hrest : Parser.many (tableModifier? d) c.advance with
  | ok ms c' =>
    rw [Parser.bind_of_ok (Parser.many_of_some_of_ok hsome hlt hrest), Parser.bind_of_ok hrest]
    rfl
  | error failure c' =>
    rw [Parser.bind_of_error (Parser.many_of_some_of_error hsome hlt hrest),
      Parser.bind_of_error hrest]

/-- A table and the name that it is bound to lead to the loop over modifiers. -/
theorem readsTable_of_bind {ls ms : List Lexeme} {e : Expr} {name : Option Identifier}
    {F G : Lexeme → Prop}
    (hsource : ∀ inner k, InnerQuery d inner k → Reads k (tableSource inner) ls e F)
    (hname : ∀ k, Reads k (binding true) ms name G) (hF : ∀ next, G next → F (headOr ms next))
    (hG : ∀ next, EndsTable next → G next) : ReadsTable d (ls ++ ms) (bind e name) := by
  intro inner k hinner c next rest hlt hc hnext
  have hread := (hsource inner k hinner).bind
    (f := fun e => do return bind e (← binding true)) ((hname k).map_pure (bind e))
    (Nat.le_add_right k _) hF
  obtain ⟨c', hc', hlexemes⟩ := hread c next rest hlt hc (hG next hnext)
  refine ⟨c', ?_, hlexemes⟩
  obtain ⟨e', c₁, hsource', hbind⟩ := Parser.bind_eq_ok.1 hc'
  obtain ⟨name', c₂, hname', hpure⟩ := Parser.bind_eq_ok.1 hbind
  obtain ⟨hbound, hcursor⟩ := EStateM.Result.ok.inj hpure
  rw [table_eq_bind, Parser.bind_of_ok hsource', Parser.bind_of_ok hname', hbound, hcursor]

/-- A word that changes the table before it. -/
theorem ReadsTable.modify {ls : List Lexeme} {e : Expr} {w : String} {m : TableModifier}
    (h : ReadsTable d ls e) (hm : d.tableModifiers.find? w.toUpper = some m)
    (has : (Lexeme.keyword w).isKeyword "AS" = false) :
    ReadsTable d (ls ++ [.keyword w]) (m.apply e) := by
  intro inner k hinner c next rest hlt hc hnext
  rw [List.append_assoc] at hc
  obtain ⟨c', htable, hc'⟩ := h inner k hinner c (.keyword w) (next :: rest) hlt hc
    ⟨nofun, has, nofun, nofun⟩
  have hcurrent := Cursor.lexeme_current hc'
  have hkind : c'.current.kind = .keyword := congrArg Lexeme.kind hcurrent
  have hkey : c'.current.key = w.toUpper := congrArg (fun l => l.text.toUpper) hcurrent
  have hadvance := Cursor.lexemes_advance hc' nofun
  have hlength := c'.length_lexemes
  have hlength' := c'.advance.length_lexemes
  rw [hc', List.length_cons] at hlength
  rw [hadvance] at hlength'
  refine ⟨c'.advance, ?_, hadvance⟩
  rw [htable, modified_of_find?_eq_some hkind (hkey ▸ hm) (by omega)]

end Grammar

theorem WrittenSource.table {e : Expr} {s : Spelling} (h : WrittenSource n d e s) :
    WrittenTable n d e s where
  renders := h.renders
  spells := h.spells
  reads := by
    have hread := Grammar.readsTable_of_bind (G := Grammar.EndsTable) h.reads_source
      (fun k => (Grammar.reads_no_binding true k).mono (Nat.le_refl k) fun _ hnext => hnext.2)
      (fun next hnext => hnext.1) fun _ hnext => hnext
    rw [List.append_nil] at hread
    exact hread

theorem WrittenSource.namedTable (hd : n.Makes d) {e : Expr} {s : Spelling}
    (h : WrittenSource n d e s) (he : e.kind ≠ .aliased) (name : Identifier) :
    WrittenTable n d (.aliased e name) (s.named d name) where
  renders := Dialect.outcome_render_aliased hd h.renders name
  spells := DialectName.spells_as h.spells (DialectName.spells_identifier hd name)
  reads := by
    have hread := Grammar.readsTable_of_bind h.reads_source (Grammar.reads_binding hd name true)
      (fun next _ => nofun) fun _ _ => trivial
    rw [Grammar.bind_canon d he name] at hread
    exact hread

/-- The spelling of a table behind which its rows are merged. -/
def Spelling.final (s : Spelling) : Spelling :=
  ⟨s.text ++ " FINAL", s.lexemes ++ [.keyword "FINAL"]⟩

theorem WrittenTable.final {d : Dialect} (hd : DialectName.clickhouse.Makes d) {e : Expr}
    {s : Spelling} (h : WrittenTable .clickhouse d e s) :
    WrittenTable .clickhouse d (.final e) s.final where
  renders := by
    rw [hd.outcome_render_own (.final e) (r := .final) rfl]
    exact Traced.outcome_bind_of_ok h.renders _
  spells := by
    have hfinal : DialectName.clickhouse.lexer.Spells "FINAL"
        [⟨DialectName.clickhouse.wordKind "FINAL", "FINAL"⟩] := DialectName.spells_word (by decide)
    have hkind : DialectName.clickhouse.wordKind "FINAL" = .keyword := by decide +kernel
    rw [hkind] at hfinal
    have hspells := DialectName.spells_spaced h.spells hfinal
    rw [String.append_assoc] at hspells
    exact hspells
  reads := by
    have hupper : "FINAL".toUpper = "FINAL" := by decide +kernel
    have hfind : d.tableModifiers.find? "FINAL".toUpper = some .final := by
      rw [hd.tableModifiers, hupper]
      rfl
    have hread := h.reads.modify hfind (by decide +kernel)
    rw [Dialect.canon_mk]
    exact hread

/-- **A table comes back** before what changes it no more. -/
theorem WrittenTable.reads_table {e : Expr} {s : Spelling} {inner : Parser (Query Expr)} {k : Nat}
    (h : WrittenTable n d e s) (hinner : Grammar.InnerQuery d inner k) :
    Reads k (Grammar.table d inner) s.lexemes (d.canon e) (fun next => Grammar.EndsTable next ∧
      (next.kind = .keyword → d.tableModifiers.find? next.text.toUpper = none)) := by
  intro c next rest hlt hc hnext
  obtain ⟨c', htable, hc'⟩ := h.reads inner k hinner c next rest hlt hc hnext.1
  have hcurrent := Cursor.lexeme_current hc'
  have hkind : c'.current.kind = next.kind := congrArg Lexeme.kind hcurrent
  have hkey : c'.current.key = next.text.toUpper := congrArg (fun l => l.text.toUpper) hcurrent
  refine ⟨c', ?_, hc'⟩
  rw [htable, Grammar.modified_of_find?_eq_none]
  rw [hkind, hkey]
  exact hnext.2

/-! ## Sort keys -/

/-- The word behind a sort key. -/
def SortDirection.word : SortDirection → String
  | asc => "ASC"
  | desc => "DESC"

/-- The spelling of a sort key. -/
def Spelling.sortKey (key : Ordered (Expr × Spelling)) : Spelling :=
  match key.direction with
  | none => key.this.2
  | some direction =>
    ⟨key.this.2.text ++ " " ++ direction.word, key.this.2.lexemes ++ [.keyword direction.word]⟩

/-- What may follow a sort key. -/
def Grammar.EndsSortKey (next : Lexeme) : Prop :=
  Grammar.EndsOperand 0 next ∧ next.isKeyword "ASC" = false ∧ next.isKeyword "DESC" = false

section SortKey

variable {key : Ordered (Expr × Spelling)}

theorem Dialect.outcome_sortKey (h : (d.render key.this.1).outcome = .ok key.this.2.text) :
    (Render.sortKey (key.map fun i => (i.1, d.render i.1))).outcome =
      .ok (Spelling.sortKey key).text := by
  obtain ⟨⟨e, s⟩, direction⟩ := key
  show (d.render e >>= fun text => pure _).outcome = _
  rw [Traced.outcome_bind_of_ok h]
  have hasc : " ASC" = " " ++ "ASC" := rfl
  have hdesc : " DESC" = " " ++ "DESC" := rfl
  rcases direction with _ | _ | _
  · rfl
  · show Except.ok (s.text ++ " ASC") = .ok (s.text ++ " " ++ "ASC")
    rw [hasc, String.append_assoc]
  · show Except.ok (s.text ++ " DESC") = .ok (s.text ++ " " ++ "DESC")
    rw [hdesc, String.append_assoc]

theorem Spelling.spells_sortKey (h : n.lexer.Spells key.this.2.text key.this.2.lexemes) :
    n.lexer.Spells (Spelling.sortKey key).text (Spelling.sortKey key).lexemes := by
  obtain ⟨⟨e, s⟩, direction⟩ := key
  cases direction with
  | none => exact h
  | some direction =>
    refine DialectName.spells_spaced h (DialectName.spells_keyword ?_)
    cases direction <;> decide

theorem Grammar.reads_sortKey {nested : Nat → Parser Expr} {k : Nat}
    (h : WrittenOperand n d key.this.1 key.this.2) (hnested : Grammar.Nested d nested k) :
    Reads k (Grammar.sortKey nested) (Spelling.sortKey key).lexemes
      (key.map fun i => d.canon i.1) Grammar.EndsSortKey := by
  obtain ⟨⟨e, s⟩, direction⟩ := key
  have he := h.reads.reads_nested (Nat.zero_le _) hnested
  have hasc : (Lexeme.keyword "ASC").isKeyword "ASC" = true := by decide +kernel
  have hdesc : (Lexeme.keyword "DESC").isKeyword "ASC" = false := by decide +kernel
  rcases direction with _ | _ | _
  · refine he.bind_end (G := Grammar.EndsSortKey) ?_ fun next hnext => hnext.1
    exact Reads.consumeKeyword_bind_false (fun next hnext => hnext.2.1)
      (Reads.consumeKeyword_bind_false (fun next hnext => hnext.2.2) (Reads.pure k _ _))
  · exact he.bind (m := k) (Reads.consumeKeyword_bind_true (Reads.pure k _ _) (Nat.le_succ k))
      (Nat.le_add_right k _) fun _ _ => Grammar.endsOperand_keyword (by decide +kernel) 0
  · exact he.bind (m := k) (Reads.consumeKeyword_bind_false (fun _ _ => hdesc)
        (Reads.consumeKeyword_bind_true (Reads.pure k _ _) (Nat.le_succ k)))
      (Nat.le_add_right k _) fun _ _ => Grammar.endsOperand_keyword (by decide +kernel) 0

end SortKey

/-! ## Queries -/

/-- A query whose parts come back. -/
structure WrittenParts (n : DialectName) (d : Dialect) (q : Query (Expr × Spelling)) : Prop where
  projections_ne_nil : q.projections ≠ []
  projection : ∀ i ∈ q.projections, WrittenElement n d i.1 i.2
  source : ∀ i ∈ q.source, WrittenTable n d i.1 i.2
  filter : ∀ i ∈ q.filter, WrittenOperand n d i.1 i.2
  groupBy : ∀ i ∈ q.groupBy, WrittenOperand n d i.1 i.2
  having : ∀ i ∈ q.having, WrittenOperand n d i.1 i.2
  orderBy : ∀ key ∈ q.orderBy, WrittenOperand n d key.this.1 key.this.2
  limit : ∀ i ∈ q.limit, WrittenOperand n d i.1 i.2

namespace Spelling

variable (q : Query (Expr × Spelling))

/-- The spelling of a query up to its first clause. -/
def projections : Spelling :=
  ⟨"SELECT " ++ (if q.distinct then "DISTINCT " else "") ++ (commas q.projections).text,
    .keyword "SELECT" :: (if q.distinct then [.keyword "DISTINCT"] else []) ++
      (commas q.projections).lexemes⟩

/-- The sort keys of a query, each beside its spelling. -/
def sortKeys : List (Ordered (Expr × Spelling) × Spelling) :=
  q.orderBy.map fun key => (key, sortKey key)

/-- The spelling of a query. -/
def query : Spelling :=
  ((((((projections q).append (clause (clauseWord "FROM") (q.source.map (·.2)))).append
    (clause (clauseWord "WHERE") (q.filter.map (·.2)))).append
    (clause (clauseBy "GROUP") (commas? q.groupBy))).append
    (clause (clauseWord "HAVING") (q.having.map (·.2)))).append
    (clause (clauseBy "ORDER") (commas? (sortKeys q)))).append
    (clause (clauseWord "LIMIT") (q.limit.map (·.2)))

end Spelling

section Query

variable {q : Query (Expr × Spelling)}

theorem WrittenParts.sortKeys (h : WrittenParts n d q) :
    ∀ i ∈ Spelling.sortKeys q, WrittenOperand n d i.1.this.1 i.1.this.2 ∧ i.2 = .sortKey i.1 := by
  intro i hi
  obtain ⟨key, hkey, rfl⟩ := List.mem_map.1 hi
  exact ⟨h.orderBy key hkey, rfl⟩

/-! ### The text of a query -/

theorem WrittenParts.outcome_query (h : WrittenParts n d q) :
    (Render.query ((q.map (·.1)).map fun e => (e, d.render e))).outcome =
      .ok (Spelling.query q).text := by
  have hclause : ∀ (words : Spelling) (o : Option (Expr × Spelling)),
      (∀ i ∈ o, (d.render i.1).outcome = .ok i.2.text) →
      (Render.clause words.text (o.map fun i => (i.1, d.render i.1))).outcome =
        .ok (Spelling.clause words (o.map (·.2))).text :=
    fun words o ho => Render.outcome_clause (fun e => (e, d.render e)) ho
  have hprojections : (Render.list (q.projections.map fun i => (i.1, d.render i.1))).outcome =
      .ok (Spelling.commas q.projections).text :=
    Render.outcome_list fun i hi => (h.projection i hi).renders
  have hsource := hclause (.clauseWord "FROM") q.source fun i hi => (h.source i hi).renders
  have hfilter := hclause (.clauseWord "WHERE") q.filter fun i hi => (h.filter i hi).renders
  have hgroupBy : (Render.clauseList "GROUP BY"
      ((q.groupBy.map fun i => (i.1, d.render i.1)).map (·.2))).outcome =
        .ok (Spelling.clause (.clauseBy "GROUP") (Spelling.commas? q.groupBy)).text := by
    rw [List.map_map]
    exact Render.outcome_clauseList (.clauseBy "GROUP") q.groupBy d.render
      fun i hi => (h.groupBy i hi).renders
  have hhaving := hclause (.clauseWord "HAVING") q.having fun i hi => (h.having i hi).renders
  have horderBy : (Render.clauseList "ORDER BY"
      ((q.orderBy.map (·.map fun i => (i.1, d.render i.1))).map Render.sortKey)).outcome =
      .ok (Spelling.clause (.clauseBy "ORDER") (Spelling.commas? (Spelling.sortKeys q))).text := by
    have hkeys := Render.outcome_clauseList (.clauseBy "ORDER") (Spelling.sortKeys q)
      (fun key => Render.sortKey (key.map fun i => (i.1, d.render i.1))) fun i hi => by
        obtain ⟨hkey, hi⟩ := h.sortKeys i hi
        rw [hi]
        exact Dialect.outcome_sortKey hkey.renders
    rw [Spelling.sortKeys, List.map_map] at hkeys
    rw [List.map_map]
    exact hkeys
  have hlimit := hclause (.clauseWord "LIMIT") q.limit fun i hi => (h.limit i hi).renders
  rw [Query.map_map]
  refine (Traced.outcome_bind_of_ok hprojections _).trans ?_
  refine (Traced.outcome_bind_of_ok hsource _).trans ?_
  refine (Traced.outcome_bind_of_ok hfilter _).trans ?_
  refine (Traced.outcome_bind_of_ok hgroupBy _).trans ?_
  refine (Traced.outcome_bind_of_ok hhaving _).trans ?_
  refine (Traced.outcome_bind_of_ok horderBy _).trans ?_
  refine (Traced.outcome_bind_of_ok hlimit _).trans ?_
  rfl

theorem WrittenParts.spells_projections (h : WrittenParts n d q) :
    n.lexer.Spells (Spelling.projections q).text (Spelling.projections q).lexemes := by
  have hselect : n.lexer.Spells "SELECT" [.keyword "SELECT"] :=
    DialectName.spells_keyword (by decide)
  have hdistinct : n.lexer.Spells "DISTINCT" [.keyword "DISTINCT"] :=
    DialectName.spells_keyword (by decide)
  have hlist : n.lexer.Spells (Spelling.commas q.projections).text
      (Spelling.commas q.projections).lexemes :=
    DialectName.spells_commas h.projections_ne_nil fun i hi => (h.projection i hi).spells
  unfold Spelling.projections
  cases q.distinct with
  | false => exact DialectName.spells_spaced hselect hlist
  | true => exact DialectName.spells_spaced (DialectName.spells_spaced hselect hdistinct) hlist

theorem WrittenParts.spells_query (h : WrittenParts n d q) :
    n.lexer.Spells (Spelling.query q).text (Spelling.query q).lexemes := by
  have hone : ∀ {o : Option (Expr × Spelling)},
      (∀ i ∈ o, n.lexer.Spells i.2.text i.2.lexemes) →
      ∀ t ∈ o.map (·.2), n.lexer.Spells t.text t.lexemes := by
    intro o ho t ht
    obtain ⟨i, hi, rfl⟩ := Option.map_eq_some_iff.1 ht
    exact ho i hi
  have hfrom := Spelling.spells_append_clause h.spells_projections
    (Spelling.spells_clauseWord (w := "FROM") (by decide)) (hone fun i hi => (h.source i hi).spells)
  have hwhere := Spelling.spells_append_clause hfrom
    (Spelling.spells_clauseWord (w := "WHERE") (by decide))
    (hone fun i hi => (h.filter i hi).spells)
  have hgroup := Spelling.spells_append_clause hwhere
    (Spelling.spells_clauseBy (w := "GROUP") (by decide))
    (Spelling.spells_commas? q.groupBy fun i hi => (h.groupBy i hi).spells)
  have hhaving := Spelling.spells_append_clause hgroup
    (Spelling.spells_clauseWord (w := "HAVING") (by decide))
    (hone fun i hi => (h.having i hi).spells)
  have horder := Spelling.spells_append_clause hhaving
    (Spelling.spells_clauseBy (w := "ORDER") (by decide))
    (Spelling.spells_commas? (Spelling.sortKeys q) fun i hi => by
      obtain ⟨hkey, hi⟩ := h.sortKeys i hi
      rw [hi]
      exact Spelling.spells_sortKey hkey.spells)
  exact Spelling.spells_append_clause horder
    (Spelling.spells_clauseWord (w := "LIMIT") (by decide)) (hone fun i hi => (h.limit i hi).spells)

/-! ### Reading a query -/

namespace Grammar

theorem EndsClause.endsSortKey {next : Lexeme} (h : EndsClause 5 next) : EndsSortKey next :=
  ⟨h.endsOperand, h.isKeyword_eq_false (by decide +kernel),
    h.isKeyword_eq_false (by decide +kernel)⟩

/-- No clause begins with a word that changes the table before it. -/
theorem EndsClause.endsTable (hd : n.Makes d) {rank : Nat} {next : Lexeme}
    (h : EndsClause rank next) : EndsTable next ∧
      (next.kind = .keyword → d.tableModifiers.find? next.text.toUpper = none) := by
  refine ⟨⟨h.kind_ne nofun nofun nofun nofun, h.endsNamed⟩, fun hkind => ?_⟩
  have hwords : ∀ w ∈ clauseWords, n.draft.tableModifiers.find? w.toUpper = none := by
    cases n <;> decide +kernel
  rw [hd.tableModifiers]
  rcases h with (h | h | h) | ⟨w, hw, rfl⟩
  · exact nomatch hkind.symm.trans h
  · exact nomatch hkind.symm.trans h
  · exact nomatch hkind.symm.trans h
  · exact hwords w (List.mem_of_mem_drop hw)

/-- What stands behind the clauses below a rank, up to the end of the query, may follow them. -/
def FollowsClause (rank : Nat) (ls : List Lexeme) : Prop :=
  ∀ next, EndsQuery next → EndsClause rank (headOr ls next)

theorem followsClause_nil (rank : Nat) : FollowsClause rank [] := fun _ hnext => Or.inl hnext

theorem FollowsClause.clause {rank : Nat} {ls : List Lexeme} (h : FollowsClause (rank + 1) ls)
    (w text : String) (words : List Lexeme) (hw : w ∈ clauseWords.drop rank) (o : Option Spelling) :
    FollowsClause rank ((Spelling.clause ⟨text, .keyword w :: words⟩ o).lexemes ++ ls) := by
  intro next hnext
  rw [headOr_append]
  exact endsClause_headOr hw o (h next hnext)

/-- A clause and what follows it are read one after the other. -/
theorem reads_clause_bind {α β : Type} {p : Parser α} {f : α → Parser β} {a : α} {b : β}
    {k rank : Nat} {ls ms : List Lexeme} (hp : Reads k p ls a (EndsClause rank))
    (hms : FollowsClause rank ms) (hf : Reads k (f a) ms b EndsQuery) :
    Reads k (p >>= f) (ls ++ ms) b EndsQuery :=
  hp.bind hf (Nat.le_add_right k _) hms

/-- What stands behind `SELECT` and, perhaps, `DISTINCT`. -/
theorem reads_distinct {β : Type} {f : Bool → Parser β} {b : β} {k : Nat} {ls : List Lexeme}
    (distinct : Bool) (hfirst : ∃ l ms, ls = l :: ms ∧ StartsOperand l)
    (h : Reads k (f distinct) ls b EndsQuery) :
    Reads k (Parser.consumeKeyword "DISTINCT" >>= f)
      ((if distinct then [.keyword "DISTINCT"] else []) ++ ls) b EndsQuery := by
  cases distinct with
  | false =>
    obtain ⟨l, ms, rfl, hl⟩ := hfirst
    exact Reads.consumeKeyword_bind_false (fun next _ => hl.notDistinct) h
  | true => exact Reads.consumeKeyword_bind_true (m := k) h (Nat.le_succ k)

end Grammar

theorem Spelling.lexemes_query (q : Query (Expr × Spelling)) :
    (Spelling.query q).lexemes = .keyword "SELECT" ::
      ((if q.distinct then [.keyword "DISTINCT"] else []) ++ ((commas q.projections).lexemes ++
        ((clause (clauseWord "FROM") (q.source.map (·.2))).lexemes ++
        ((clause (clauseWord "WHERE") (q.filter.map (·.2))).lexemes ++
        ((clause (clauseBy "GROUP") (commas? q.groupBy)).lexemes ++
        ((clause (clauseWord "HAVING") (q.having.map (·.2))).lexemes ++
        ((clause (clauseBy "ORDER") (commas? (sortKeys q))).lexemes ++
        ((clause (clauseWord "LIMIT") (q.limit.map (·.2))).lexemes ++ [])))))))) := by
  simp only [query, append, projections, List.append_assoc, List.cons_append, List.append_nil]

theorem WrittenParts.first_projection (h : WrittenParts n d q) (ls : List Lexeme) :
    ∃ l ms, (Spelling.commas q.projections).lexemes ++ ls = l :: ms ∧ StartsOperand l := by
  obtain ⟨i, items, hitems⟩ := List.exists_cons_of_ne_nil h.projections_ne_nil
  obtain ⟨l, ms, hls, hl⟩ := (h.projection i (hitems ▸ List.mem_cons_self)).first
  refine ⟨l, ms ++ (items.map fun i => i.2.lexemes).flatMap (.comma :: ·) ++ ls, ?_, hl⟩
  rw [hitems]
  show (i.2.lexemes ++ (items.map fun i => i.2.lexemes).flatMap (.comma :: ·)) ++ ls = _
  rw [hls]
  rfl

/-- The clauses of a query are read, one after another, as what they are. -/
theorem WrittenParts.reads_queryLayer (hd : n.Makes d) (h : WrittenParts n d q)
    {nested : Nat → Parser Expr} {inner : Parser (Query Expr)} {k : Nat}
    (hnested : Grammar.Nested d nested k) (hinner : Grammar.InnerQuery d inner k) :
    Reads (k + 1) (Grammar.queryLayer d nested inner) (Spelling.query q).lexemes
      (d.canonQuery (q.map (·.1))) Grammar.EndsQuery := by
  have hoperand : ∀ {e s}, WrittenOperand n d e s →
      Reads k (nested 0) s.lexemes (d.canon e) (Grammar.EndsOperand 0) :=
    fun he => he.reads.reads_nested (Nat.zero_le _) hnested
  have hprojections : Reads k (Parser.csv (Grammar.projection nested))
      (Spelling.commas q.projections).lexemes (q.projections.map fun i => d.canon i.1)
      (Grammar.EndsClause 0) :=
    Reads.csv h.projections_ne_nil (fun i hi => (h.projection i hi).reads nested k hnested true)
      ⟨Grammar.endsOperand_comma 0, by decide, nofun, nofun⟩
      fun next hnext => ⟨hnext.endsElement, hnext.kind_ne nofun nofun nofun nofun⟩
  have hfrom := Grammar.reads_clause 1 "FROM" d.canon
    (fun i hi => (h.source i hi).reads_table hinner) (fun next hnext => hnext.endsTable hd)
    (by decide +kernel)
  have hwhere := Grammar.reads_clause 2 "WHERE" d.canon
    (fun i hi => hoperand (h.filter i hi)) (fun next hnext => hnext.endsOperand) (by decide +kernel)
  have hgroup := Grammar.reads_clauseBy 3 "GROUP" (nested 0) q.groupBy d.canon
    (fun i hi => hoperand (h.groupBy i hi)) (Grammar.endsOperand_comma 0)
    (fun next hnext => hnext.endsOperand) (by decide +kernel)
  have hhaving := Grammar.reads_clause 4 "HAVING" d.canon
    (fun i hi => hoperand (h.having i hi)) (fun next hnext => hnext.endsOperand) (by decide +kernel)
  have horder := Grammar.reads_clauseBy 5 "ORDER" (Grammar.sortKey nested) (Spelling.sortKeys q)
    (fun key => key.map fun i => d.canon i.1) (F := Grammar.EndsSortKey)
    (fun i hi => by
      obtain ⟨hkey, hi⟩ := h.sortKeys i hi
      rw [hi]
      exact Grammar.reads_sortKey hkey hnested)
    ⟨Grammar.endsOperand_comma 0, by decide, by decide⟩ (fun next hnext => hnext.endsSortKey)
    (by decide +kernel)
  have hlimit := Grammar.reads_clause 6 "LIMIT" d.canon
    (fun i hi => hoperand (h.limit i hi)) (fun next hnext => hnext.endsOperand) (by decide +kernel)
  -- What stands behind each clause, from the last one back.
  have hfollows₅ := (Grammar.followsClause_nil 6).clause "LIMIT" "LIMIT" [] (by decide)
    (q.limit.map (·.2))
  have hfollows₄ := hfollows₅.clause "ORDER" "ORDER BY" [.keyword "BY"] (by decide)
    (Spelling.commas? (Spelling.sortKeys q))
  have hfollows₃ := hfollows₄.clause "HAVING" "HAVING" [] (by decide)
    (q.having.map (·.2))
  have hfollows₂ := hfollows₃.clause "GROUP" "GROUP BY" [.keyword "BY"] (by decide)
    (Spelling.commas? q.groupBy)
  have hfollows₁ := hfollows₂.clause "WHERE" "WHERE" [] (by decide)
    (q.filter.map (·.2))
  have hfollows₀ := hfollows₁.clause "FROM" "FROM" [] (by decide)
    (q.source.map (·.2))
  rw [Spelling.lexemes_query]
  refine Reads.discard_expectKeyword_bind (m := k) ?_ (Nat.le_refl _)
  refine Grammar.reads_distinct q.distinct (h.first_projection _) ?_
  refine Grammar.reads_clause_bind hprojections hfollows₀ ?_
  refine Grammar.reads_clause_bind hfrom hfollows₁ ?_
  refine Grammar.reads_clause_bind hwhere hfollows₂ ?_
  refine Grammar.reads_clause_bind hgroup hfollows₃ ?_
  refine Grammar.reads_clause_bind hhaving hfollows₄ ?_
  refine Grammar.reads_clause_bind horder hfollows₅ ?_
  refine Grammar.reads_clause_bind hlimit (Grammar.followsClause_nil 6) ?_
  have hvalue : d.canonQuery (q.map (·.1)) =
      ⟨q.distinct, q.projections.map fun i => d.canon i.1, q.source.map fun i => d.canon i.1,
        q.filter.map fun i => d.canon i.1, q.groupBy.map fun i => d.canon i.1,
        q.having.map fun i => d.canon i.1,
        (Spelling.sortKeys q).map fun i => i.1.map fun i => d.canon i.1,
        q.limit.map fun i => d.canon i.1⟩ := by
    rw [Dialect.canonQuery, Query.map_map, Spelling.sortKeys, List.map_map]
    rfl
  rw [hvalue]
  exact Reads.pure k _ _

/-- **A query comes back**, if its parts do. -/
theorem WrittenParts.writtenQuery (hd : n.Makes d) (h : WrittenParts n d q) :
    WrittenQuery n d (q.map (·.1)) (.query q) where
  renders := h.outcome_query
  spells := h.spells_query
  first := ⟨_, Spelling.lexemes_query q⟩
  reads := by
    intro nested k hnested c next rest hlt hc hnext
    have hnested' : Grammar.Nested d nested c.remaining :=
      fun least c' hlt' => hnested least c' (Nat.lt_trans hlt' hlt)
    have hinner : Grammar.InnerQuery d
        (Parser.descend c fun inner _ => Grammar.query d nested inner) c.remaining :=
      ⟨nested, hnested', fun c' hlt' => Parser.descend_of_lt hlt'⟩
    rw [Grammar.query]
    exact h.reads_queryLayer hd hnested' hinner c next rest (Nat.lt_succ_self _) hc hnext

end Query

end SqlDialects
