import SqlDialects.Proofs.RoundTrip.ParsedStatement
import SqlDialects.Proofs.RoundTrip.Stable
import SqlDialects.Proofs.RoundTrip.Statement
import SqlDialects.Proofs.Statements.Outcome

/-!
# Types through standard SQL

A dialect has two tables for types: one resolves the names that it reads, the other
spells the names that it has resolved.  Nothing makes the two inverse to each other.
What matters is only what the first can come to: no such name is resolved any further
(`DialectName.Canonical`).

Standard SQL has neither table, so it takes a name for what it is, whatever dialect the
name was resolved by.  ClickHouse spells every name so that the spelling is resolved to
the name again.  BigQuery does not: its whole numbers are one type, and `INT` comes back
as `BIGINT`; there only the spelling is kept, which is the same for both.

All this is about names, and a type is compared with what is read for it name by name
(`DataType.rename_eq_self`).
-/

namespace SqlDialects

variable {n : DialectName} {d : Dialect} {t : DataType} {name text : String}

/-- The type at the beginning of a text, and of what kind the token behind it is. -/
def Dialect.readType (d : Dialect) (text : String) : Traced SqlError (DataType × TokenKind) :=
  d.lex text >>= Parser.run do return (← Grammar.dataType d, (← Parser.peek).kind)

/-! ## Names that come back -/

/-- A type is left alone if every name in it is. -/
theorem DataType.rename_eq_self {f : String → String} (h : t.Names fun name => f name = name) :
    t.rename f = t := by
  induction t using DataType.induction with
  | step name params ih =>
    have hparams : renameParams f params = params := by
      rw [renameParams_eq_map]
      refine (List.map_congr_left fun p hp => ?_).trans (List.map_id params)
      have hp' := namesIn_iff.1 h.2 p hp
      cases p with
      | number digits => rfl
      | text value => rfl
      | type t => exact congrArg TypeParam.type (ih t hp hp')
    show DataType.mk (f name) (renameParams f params) = _
    rw [hparams, show f name = name from h.1]

/-- What a dialect resolves to itself, standard SQL does, which resolves nothing to anything
else. -/
theorem DialectName.Canonical.ansi (h : n.Canonical name) : DialectName.ansi.Canonical name :=
  ⟨h.isWord, h.toUpper, rfl⟩

namespace DialectName.Makes

/-- Standard SQL spells every name as it is. -/
theorem canonTypeName_eq_self_ansi (hd : ansi.Makes d) (h : ansi.Canonical name) :
    d.canonTypeName name = name := by
  refine hd.canonTypeName_of_find?_eq_none h ?_
  rfl

/-- The names that ClickHouse spells in a way of its own are what it resolves these spellings
to. -/
theorem canonTypeName_eq_self_clickhouse (hd : clickhouse.Makes d)
    (h : clickhouse.Canonical name) : d.canonTypeName name = name := by
  cases hfind : clickhouse.draft.typeNames.find? name with
  | none => exact hd.canonTypeName_of_find?_eq_none h hfind
  | some spelling =>
    have hall : ∀ e ∈ clickhouse.draft.typeNames,
        (clickhouse.draft.typeAliases.find? e.2.toUpper).getD e.2.toUpper = e.1 := by
      decide +kernel
    unfold Dialect.canonTypeName
    rw [hd.canonicalType, hd.typeName, hfind]
    exact hall _ (Table.mem_of_find?_eq_some hfind)

end DialectName.Makes

/-! ## Types that come back -/

/-- The names in a type that a dialect reads are resolved, wherever the type ends. -/
theorem Dialect.names_of_readType (hd : n.Makes d) {next : TokenKind}
    (h : (d.readType text).outcome = .ok (t, next)) : t.Names n.Canonical := by
  have hread : Gives n (do return (← Grammar.dataType d, (← Parser.peek).kind))
      fun p => p.1.Names n.Canonical := by
    refine (Grammar.gives_dataType hd).bind fun t ht => Gives.peek_bind fun next _ => ?_
    refine Gives.at_of (Gives.pure ?_) next
    exact ht
  exact hread.of_run hd h

/-- **A type that is spelled with words comes back in its canonical form**, and the text holds
nothing else. -/
theorem Dialect.readType_writeType (hd : n.Makes d) (h : t.Names n.SpellsType) :
    (d.readType (d.writeType t)).outcome = .ok (d.canonType t, .endOfFile) := by
  obtain ⟨ls, hwritten⟩ := Grammar.writtenType hd h
  obtain ⟨tokens, hlex, hlexemes⟩ := Lexer.lexemes?_eq_some.1 hwritten.spells.lexemes?_eq
  obtain ⟨c, hrun, hc⟩ := hwritten.reads _ (.ofTokens tokens) .endOfFile [] (Nat.lt_succ_self _)
    (Cursor.lexemes_ofTokens hlexemes) (fun h => by cases h)
  have hkind : c.current.kind = .endOfFile := congrArg Lexeme.kind (Cursor.lexeme_current hc)
  rw [readType, outcome_lex_bind_run hd, Lexer.read_eq_ok_of_lex hlex]
  refine ⟨c, ?_⟩
  rw [Parser.bind_of_ok hrun, Parser.bind_of_ok (Parser.peek_run c), hkind]
  rfl

/-- **Types go through standard SQL and come back.**  A type that ClickHouse reads is written by
standard SQL as a text in which standard SQL reads that type, and by ClickHouse as one in which
ClickHouse reads it.  A type that BigQuery reads is written as a text in which BigQuery reads a
type that it writes as the same text. -/
theorem types_pivot_through_ansi (config? pivot? : Option Setting) :
    let ansi := Dialect.builtin .ansi pivot?
    let clickhouse := Dialect.builtin .clickhouse config?
    let bigquery := Dialect.builtin .bigquery config?
    (∀ text t next, (clickhouse.readType text).outcome = .ok (t, next) →
      (ansi.readType (ansi.writeType t)).outcome = .ok (t, .endOfFile) ∧
        (clickhouse.readType (clickhouse.writeType t)).outcome = .ok (t, .endOfFile)) ∧
    ∀ text t next, (bigquery.readType text).outcome = .ok (t, next) →
      ∃ t', (bigquery.readType (bigquery.writeType t)).outcome = .ok (t', .endOfFile) ∧
        bigquery.writeType t' = bigquery.writeType t := by
  intro ansi clickhouse bigquery
  have hansi : DialectName.ansi.Makes ansi := DialectName.makes_builtin .ansi pivot?
  have hclickhouse : DialectName.clickhouse.Makes clickhouse :=
    DialectName.makes_builtin .clickhouse config?
  have hbigquery : DialectName.bigquery.Makes bigquery :=
    DialectName.makes_builtin .bigquery config?
  have hspells : ∀ (m n : DialectName) {t : DataType}, t.Names n.Canonical → t.Names m.SpellsType :=
    fun m n t ht => ht.mono fun _ hname => m.spellsType_of_isWord hname.isWord
  refine ⟨fun text t next hread => ?_, fun text t next hread => ?_⟩
  · have hnames := Dialect.names_of_readType hclickhouse hread
    have hpivot : ansi.canonType t = t := DataType.rename_eq_self
      (hnames.mono fun _ hname => hansi.canonTypeName_eq_self_ansi hname.ansi)
    have hback : clickhouse.canonType t = t := DataType.rename_eq_self
      (hnames.mono fun _ hname => hclickhouse.canonTypeName_eq_self_clickhouse hname)
    have hreadPivot := Dialect.readType_writeType hansi (hspells .ansi _ hnames)
    have hreadBack := Dialect.readType_writeType hclickhouse (hspells .clickhouse _ hnames)
    rw [hpivot] at hreadPivot
    rw [hback] at hreadBack
    exact ⟨hreadPivot, hreadBack⟩
  · have hnames := Dialect.names_of_readType hbigquery hread
    exact ⟨bigquery.canonType t, Dialect.readType_writeType hbigquery (hspells .bigquery _ hnames),
      Dialect.writeType_canonType hbigquery hnames⟩

/-- A name that is resolved, under one that is not, beside one that is no type of standard SQL; and
a whole number that comes back as another. -/
theorem types_pivot_through_ansi_nested :
    let ansi := Dialect.builtin .ansi none
    let clickhouse := Dialect.builtin .clickhouse none
    let bigquery := Dialect.builtin .bigquery none
    let t : DataType :=
      .mk "LOWCARDINALITY" [.type (.mk "STRUCT" [.type (.mk "TINYINT" []),
        .type (.mk "DATETIME64" [.number "3", .text "it's"])])]
    let int : DataType := .mk "INT" []
    (clickhouse.readType "lowCardinality(tuple(INT8, DateTime64(3, 'it\\'s'))) x").outcome =
        .ok (t, .word) ∧
      ansi.writeType t = "LOWCARDINALITY(STRUCT(TINYINT, DATETIME64(3, 'it''s')))" ∧
      (ansi.readType (ansi.writeType t)).outcome = .ok (t, .endOfFile) ∧
      clickhouse.writeType t = "LowCardinality(Tuple(Int8, DateTime64(3, 'it\\'s')))" ∧
      (clickhouse.readType (clickhouse.writeType t)).outcome = .ok (t, .endOfFile) ∧
      (bigquery.readType "int").outcome = .ok (int, .endOfFile) ∧
      ∃ t', (bigquery.readType (bigquery.writeType int)).outcome = .ok (t', .endOfFile) ∧
        bigquery.writeType t' = bigquery.writeType int := by
  intro ansi clickhouse bigquery t int
  have hread : (clickhouse.readType
      "lowCardinality(tuple(INT8, DateTime64(3, 'it\\'s'))) x").outcome = .ok (t, .word) := by
    decide +kernel
  have hint : (bigquery.readType "int").outcome = .ok (int, .endOfFile) := by decide +kernel
  obtain ⟨hclickhouse, hbigquery⟩ := types_pivot_through_ansi none none
  obtain ⟨hpivot, hback⟩ := hclickhouse _ _ _ hread
  exact ⟨hread, by decide +kernel, hpivot, by decide +kernel, hback, hint, hbigquery _ _ _ hint⟩

end SqlDialects
