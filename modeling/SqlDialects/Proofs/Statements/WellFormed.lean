import SqlDialects.Proofs.Expr.Part
import SqlDialects.Proofs.Lexing.Casing
import SqlDialects.Proofs.RoundTrip.SameDialect

/-!
# What is read is well formed

The type of expressions has room for more than statements: names bound in the
middle of an operand, queries without brackets anywhere, tables merged where there
is no table.  `Node.WellFormed d role` is what a built-in dialect keeps to, one
node at a time; what it allows depends on the role that the node has in the
statement.  `wellFormed_of_parse` says that every part of every statement that is
read keeps to it.

`Readable` says as much, and more, but by the forms of the grammar: from the
outside in, with a place for every nonterminal.  The two meet in `Stands`: an
expression stands in a role if it is readable at a place that fits the role.  One
step down from a node that stands, its children stand in their roles
(`Readable.stands_of_mem_parts`), and a node that stands is well formed.
-/

namespace SqlDialects

variable {n : DialectName} {d : Dialect}

/-! ## Well-formed nodes -/

/-- A hexadecimal digit. -/
def IsHexDigit (c : Char) : Prop :=
  ('0' ≤ c ∧ c ≤ '9') ∨ ('a' ≤ c ∧ c ≤ 'f') ∨ ('A' ≤ c ∧ c ≤ 'F')

/-- A binary digit. -/
def IsBit (c : Char) : Prop := c = '0' ∨ c = '1'

/-- The name of a type as it is kept: without lowercase letters, and not one that the dialect reads
as another. -/
structure Dialect.IsTypeName (d : Dialect) (name : String) : Prop where
  noLower : ∀ c ∈ name.toList, c.isLower = false
  notAlias : d.typeAliases.binds name = false

/-- What a dialect keeps to at a node, its children's own nodes apart. -/
def Node.WellFormed (d : Dialect) (role : Role) : Node Expr → Prop
  | .compound parts => 2 ≤ parts.length
  | .literal (.hex digits) =>
    d.name = .clickhouse ∧ digits.toList ≠ [] ∧ ∀ c ∈ digits.toList, IsHexDigit c
  | .literal (.bits digits) =>
    d.name = .clickhouse ∧ digits.toList ≠ [] ∧ ∀ c ∈ digits.toList, IsBit c
  | .tuple elements => elements.length ≠ 1
  | .aliased this _ => role ≠ .inner ∧ this.kind ≠ .aliased
  | .struct _ _ => d.name = .bigquery ∨ d.name = .clickhouse
  | .cast _ target => target.Names d.IsTypeName
  | .quantile _ _ => d.name = .clickhouse
  | .varMap keys values => d.name = .clickhouse ∧ keys.length = values.length
  | .final _ => d.name = .clickhouse ∧ role = .source
  | .subquery q => q.projections ≠ []
  | .select q => role = .statement ∧ q.projections ≠ []
  | .identifier _ | .literal _ | .star | .binary _ _ _ | .unary _ _ | .paren _ | .call _ _
  | .approxDistinct _ | .anyValue _ | .regexpLike _ _ => True

/-! ## Places and roles -/

/-- A place is one for parts in a role.  Nothing at the first two places is particular about
where it stands. -/
def Position.Fits (role : Role) : Position → Prop
  | .source | .operand => True
  | .element => role ≠ .inner
  | .table => role = .source
  | .query => role = .statement

/-- An expression is read at a place that fits a role. -/
def Stands (n : DialectName) (role : Role) (e : Expr) : Prop :=
  ∃ place : Position, place.Fits role ∧ Readable n n.Canonical place e

/-- All of a list stands in a role if each of its elements does. -/
theorem stands_of_mem_map (role : Role) {es : List Expr} (h : ∀ e ∈ es, Stands n role e) :
    ∀ x ∈ es.map (Prod.mk role), Stands n x.1 x.2 := by
  intro x hx
  obtain ⟨e, he, rfl⟩ := List.mem_map.1 hx
  exact h e he

/-- Operands stand in any role. -/
theorem stands_of_operands (role : Role) {es : List Expr}
    (h : ∀ e ∈ es, Readable n n.Canonical .operand e) :
    ∀ x ∈ es.map (Prod.mk role), Stands n x.1 x.2 :=
  stands_of_mem_map role fun e he => ⟨.operand, trivial, h e he⟩

/-- Elements stand in any role that has names. -/
theorem stands_of_elements {role : Role} (hrole : role ≠ .inner) {es : List Expr}
    (h : ∀ e ∈ es, Readable n n.Canonical .element e) :
    ∀ x ∈ es.map (Prod.mk role), Stands n x.1 x.2 :=
  stands_of_mem_map role fun e he => ⟨.element, hrole, h e he⟩

/-- What is readable behind `SELECT` stands in the roles that a query gives. -/
theorem Readable.stands_of_mem_queryParts {q : Query Expr}
    (hprojection : ∀ e ∈ q.projections, Readable n n.Canonical .element e)
    (hsource : ∀ e ∈ q.source, Readable n n.Canonical .table e)
    (hfilter : ∀ e ∈ q.filter, Readable n n.Canonical .operand e)
    (hgroupBy : ∀ e ∈ q.groupBy, Readable n n.Canonical .operand e)
    (hhaving : ∀ e ∈ q.having, Readable n n.Canonical .operand e)
    (horderBy : ∀ o ∈ q.orderBy, Readable n n.Canonical .operand o.this)
    (hlimit : ∀ e ∈ q.limit, Readable n n.Canonical .operand e) :
    ∀ x ∈ q.parts, Stands n x.1 x.2 := by
  intro x hx
  rw [Query.parts, List.mem_append, List.mem_append] at hx
  rcases hx with (hx | hx) | hx
  · exact stands_of_elements (by decide) hprojection x hx
  · refine stands_of_mem_map .source (fun e he => ⟨.table, rfl, hsource e ?_⟩) x hx
    exact Option.mem_toList.1 he
  · refine stands_of_operands .inner (fun e he => ?_) x hx
    simp only [List.mem_append, List.mem_map, Option.mem_toList] at he
    rcases he with (((he | he) | he) | ⟨o, ho, rfl⟩) | he
    · exact hfilter e he
    · exact hgroupBy e he
    · exact hhaving e he
    · exact horderBy o ho
    · exact hlimit e he

/-- **The children of what stands in a role stand in theirs.** -/
theorem Readable.stands_of_mem_parts {place : Position} {e : Expr}
    (h : Readable n n.Canonical place e) {role : Role} (hfits : place.Fits role) :
    ∀ x ∈ e.node.parts role, Stands n x.1 x.2 := by
  induction h generalizing role with
  | identifier | compound | literal | star => exact fun x hx => nomatch hx
  | source _ ih | element _ ih => exact ih trivial
  | table _ ih => exact ih trivial
  | subquery _ ih =>
    -- A query in brackets has the parts of the query that it is, as a statement.
    exact ih rfl
  | binary hthis hother | regexpLike hthis hother | quantile _ hthis hother =>
    exact stands_of_operands _ (List.forall_mem_cons.2 ⟨hthis, List.forall_mem_singleton.2 hother⟩)
  | unary hthis | paren hthis | cast hthis | approxDistinct hthis | anyValue hthis | named hthis =>
    exact stands_of_operands _ (List.forall_mem_singleton.2 hthis)
  | namedTable hthis =>
    exact stands_of_operands _ (List.forall_mem_singleton.2 (.source hthis))
  | tuple hall | call _ hall => exact stands_of_operands _ hall
  | struct _ _ hall => exact stands_of_elements (by decide) hall
  | varMap _ _ hkeys hvalues =>
    exact stands_of_operands _ (List.forall_mem_append.2 ⟨hkeys, hvalues⟩)
  | final _ htable =>
    intro x hx
    have hrole : role = .source := hfits
    rw [List.mem_singleton.1 hx, if_pos hrole]
    exact ⟨.table, rfl, htable⟩
  | select _ hprojection hsource hfilter hgroupBy hhaving horderBy hlimit =>
    exact stands_of_mem_queryParts hprojection hsource hfilter hgroupBy hhaving horderBy hlimit

/-- Every part of a statement that is read stands in its role. -/
theorem ReadableStatement.stands {e p : Expr} {role : Role}
    (he : ReadableStatement n n.Canonical e) (hp : e.Holds role p) : Stands n role p := by
  induction hp with
  | self =>
    obtain hquery | helement := he
    · exact ⟨.query, rfl, hquery⟩
    · exact ⟨.element, nofun, helement⟩
  | part _ hc ih =>
    obtain ⟨place, hfits, hread⟩ := ih
    exact hread.stands_of_mem_parts hfits _ hc

/-! ## What stands is well formed -/

theorem isHexDigit_of_contains {c : Char} (h : Clickhouse.hexDigit.contains c = true) :
    IsHexDigit c := by
  simpa [Clickhouse.hexDigit, CharClass.contains, ClassItem.contains, IsHexDigit] using h

theorem isBit_of_contains {c : Char} (h : Clickhouse.bit.contains c = true) : IsBit c := by
  have hrange : '0' ≤ c ∧ c ≤ '1' := by
    simpa [Clickhouse.bit, CharClass.contains, ClassItem.contains] using h
  have hlow : 48 ≤ c.toNat := hrange.1
  have hhigh : c.toNat ≤ 49 := hrange.2
  have hcode : c.toNat = 48 ∨ c.toNat = 49 := by omega
  rw [IsBit, ← Char.ofNat_toNat c]
  exact hcode.imp (congrArg Char.ofNat) (congrArg Char.ofNat)

theorem ne_nil_of_isDigits {k : CharClass} {s : List Char} (h : Clickhouse.isDigits k s = true) :
    s ≠ [] := by
  rintro rfl
  cases h

theorem contains_of_isDigits {k : CharClass} {s : List Char} (h : Clickhouse.isDigits k s = true) :
    ∀ c ∈ s, k.contains c = true := by
  simp only [Clickhouse.isDigits, Bool.and_eq_true, List.all_eq_true] at h
  exact h.2

theorem DialectName.Canonical.isTypeName (hd : n.Makes d) {name : String}
    (h : n.Canonical name) : d.IsTypeName name where
  noLower := Text.not_isLower_of_mem h.toUpper
  notAlias := by
    rw [hd.typeAliases, Table.binds, h.notAlias]
    rfl

theorem ReadableLiteral.wellFormed (hd : n.Makes d) {value : Literal} (h : ReadableLiteral n value)
    (role : Role) : (Node.literal value).WellFormed d role := by
  cases value with
  | hex digits =>
    exact ⟨hd.name.trans h.1, ne_nil_of_isDigits h.2,
      fun c hc => isHexDigit_of_contains (contains_of_isDigits h.2 c hc)⟩
  | bits digits =>
    exact ⟨hd.name.trans h.1, ne_nil_of_isDigits h.2,
      fun c hc => isBit_of_contains (contains_of_isDigits h.2 c hc)⟩
  | number | string | boolean | null => trivial

theorem bigquery_or_clickhouse_of_ne {n : DialectName} (h : n ≠ .ansi) :
    n = .bigquery ∨ n = .clickhouse := by
  cases n with
  | ansi => exact absurd rfl h
  | bigquery => exact Or.inl rfl
  | clickhouse => exact Or.inr rfl

/-- **A node that stands in a role is well formed in it.** -/
theorem Readable.wellFormed (hd : n.Makes d) {place : Position} {e : Expr}
    (h : Readable n n.Canonical place e) {role : Role} (hfits : place.Fits role) :
    e.node.WellFormed d role := by
  induction h generalizing role with
  | identifier | star | binary | unary | paren | call | approxDistinct | anyValue | regexpLike =>
    trivial
  | source _ ih | element _ ih => exact ih trivial
  | table _ ih => exact ih trivial
  | compound hparts => exact hparts
  | subquery _ ih => exact (ih rfl).2
  | literal hvalue => exact hvalue.wellFormed hd role
  | tuple _ hlength => exact hlength
  | struct _ hn =>
    exact (bigquery_or_clickhouse_of_ne hn).imp hd.name.trans hd.name.trans
  | cast _ htarget => exact htarget.mono fun _ hname => hname.isTypeName hd
  | quantile hn => exact hd.name.trans hn
  | varMap hn hlength => exact ⟨hd.name.trans hn, hlength⟩
  | named hthis => exact ⟨hfits, hthis.kind_ne_aliased (Or.inr rfl)⟩
  | namedTable hthis =>
    have hrole : role = .source := hfits
    exact ⟨hrole ▸ nofun, hthis.kind_ne_aliased (Or.inl rfl)⟩
  | final hn => exact ⟨hd.name.trans hn, hfits⟩
  | select hne => exact ⟨hfits, hne⟩

/-- **Every statement that a built-in dialect reads is well formed**, at every depth and in every
role that a part of it has.  By `Expr.hasPart_iff` no part is left out. -/
theorem wellFormed_of_parse {name : DialectName} {config? : Option Setting} {text : String}
    {es : List Expr} (h : ((Dialect.builtin name config?).parse text).outcome = .ok es) :
    ∀ e ∈ es, ∀ role p, e.Holds role p →
      p.node.WellFormed (Dialect.builtin name config?) role := by
  intro e he role p hp
  have hd := name.makes_builtin config?
  obtain ⟨place, hfits, hread⟩ := (readable_of_parse hd h e he).stands hp
  exact hread.wellFormed hd hfits

/-- A table that is merged under a name: the name stands under the table modifier, and is still part
of what is read from. -/
theorem wellFormed_of_parse_clickhouse :
    let d := Dialect.builtin .clickhouse none
    let table : Expr := .aliased (.identifier ⟨"t", false⟩) ⟨"u", false⟩
    let e : Expr := .select
      { projections :=
          [.aliased (.quantile (.identifier ⟨"x", false⟩) (.literal (.hex "5A"))) ⟨"q", false⟩,
            .struct [.aliased (.cast (.identifier ⟨"y", false⟩) (.mk "INT" [])) ⟨"z", false⟩]
              (some "tuple")]
        source := some (.final table) }
    let text := "SELECT quantile(0x5A)(x) AS q, tuple(CAST(y AS Int32) AS z) FROM t AS u FINAL"
    (d.parse text).outcome = .ok [e] ∧ e.Holds .source table ∧ table.node.WellFormed d .source := by
  intro d table e text
  have hparse : (d.parse text).outcome = .ok [e] := by decide +kernel
  have hfinal : e.Holds .source (.final table) :=
    .part .self (List.mem_cons_of_mem _ (List.mem_cons_of_mem _ List.mem_cons_self))
  have htable : e.Holds .source table := .part hfinal List.mem_cons_self
  exact ⟨hparse, htable,
    wellFormed_of_parse hparse e List.mem_cons_self .source table htable⟩

end SqlDialects
