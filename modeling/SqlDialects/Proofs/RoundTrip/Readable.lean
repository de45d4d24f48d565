import SqlDialects.Proofs.Dialect.Assembled
import SqlDialects.Proofs.Lexing.Numeral
import SqlDialects.Proofs.RoundTrip.Canonical

/-!
# Expressions that can be read

Not every expression is the result of reading something.  The type allows a
compound name of one part, a tuple of one element, a product of sums without
brackets, a name bound in the middle of an operand.  `Readable n P place e` says
that `e` is an expression as the dialect `n` reads them at a place of that sort:
each clause is one form of the grammar, and asks of its parts what the grammar
asks of them.

Both directions of the round trip meet here.  Whatever is read is readable, and
whatever is readable is written as a text that is read again; neither proof needs
to know anything else about the other.

## Names of types

What a dialect asks of the name of a type depends on which way one looks.  Reading
produces canonical names, which nothing else has to be; writing only needs names
that come out as words.  So the condition on these names is left open, as `P`.

## Brackets

An operand that needs brackets has them: that is `Render.needsBrackets` saying no.
In terms of `strength`, how tightly the outermost operator of an expression binds,
an operand may not bind more loosely than its operator, and to the right of a
binary operator not even equally (`Expr.le_strength`, `Expr.lt_strength`).
-/

namespace SqlDialects

namespace Expr

/-- How tightly the outermost operator of an expression binds; more tightly than any operator if
there is none. -/
def strength (e : Expr) : Nat := (Render.precedence? e).getD 9

theorem le_strength {e : Expr} {outer : Nat} (houter : outer ≤ 9)
    (h : Render.needsBrackets e outer false = false) : outer ≤ e.strength := by
  unfold strength
  unfold Render.needsBrackets at h
  cases hp : Render.precedence? e with
  | none => exact houter
  | some inner =>
    rw [hp] at h
    simp only [Bool.false_and, Bool.or_false, decide_eq_false_iff_not] at h
    exact Nat.le_of_not_lt h

theorem lt_strength {e : Expr} {outer : Nat} (houter : outer < 9)
    (h : Render.needsBrackets e outer true = false) : outer < e.strength := by
  unfold strength
  unfold Render.needsBrackets at h
  cases hp : Render.precedence? e with
  | none => exact houter
  | some inner =>
    rw [hp] at h
    simp only [Bool.true_and, Bool.or_eq_false_iff, decide_eq_false_iff_not,
      beq_eq_false_iff_ne] at h
    exact Nat.lt_of_le_of_ne (Nat.le_of_not_lt h.1) (Ne.symm h.2)

theorem needsBrackets_of_le_strength {e : Expr} {outer : Nat} (h : outer ≤ e.strength) :
    Render.needsBrackets e outer false = false := by
  unfold strength at h
  unfold Render.needsBrackets
  cases hp : Render.precedence? e with
  | none => rfl
  | some inner =>
    rw [hp] at h
    simp only [Bool.false_and, Bool.or_false, decide_eq_false_iff_not]
    exact Nat.not_lt.2 h

theorem needsBrackets_of_lt_strength {e : Expr} {outer : Nat} (h : outer < e.strength) :
    Render.needsBrackets e outer true = false := by
  unfold strength at h
  unfold Render.needsBrackets
  cases hp : Render.precedence? e with
  | none => rfl
  | some inner =>
    rw [hp] at h
    simp only [Bool.true_and, Bool.or_eq_false_iff, decide_eq_false_iff_not, beq_eq_false_iff_ne]
    exact ⟨Nat.not_lt.2 (Nat.le_of_lt h), Nat.ne_of_gt h⟩

end Expr

/-! ## Types -/

namespace DataType

section Names

variable (P : String → Prop)

mutual

/-- All names in a type satisfy `P`, and its numbers are numerals. -/
def Names : DataType → Prop
  | .mk name params => P name ∧ NamesIn params

/-- All names in some parameters satisfy `P`, and their numbers are numerals. -/
def NamesIn : List (TypeParam DataType) → Prop
  | [] => True
  | p :: ps => NamesOf p ∧ NamesIn ps

/-- All names in a parameter satisfy `P`, and its number is a numeral. -/
def NamesOf : TypeParam DataType → Prop
  | .number digits => Lexical.isNumeral digits.toList = true
  | .text _ => True
  | .type t => Names t

end

end Names

theorem namesIn_iff {P : String → Prop} {ps : List (TypeParam DataType)} :
    NamesIn P ps ↔ ∀ p ∈ ps, NamesOf P p := by
  induction ps with
  | nil => simp [NamesIn]
  | cons p ps ih => simp [NamesIn, ih]

/-- A weaker condition on names is satisfied by the names of the same types. -/
theorem Names.mono {P Q : String → Prop} (h : ∀ name, P name → Q name) {t : DataType}
    (ht : t.Names P) : t.Names Q := by
  induction t using DataType.induction with
  | step name params ih =>
    refine ⟨h name ht.1, namesIn_iff.2 fun p hp => ?_⟩
    have hnames := namesIn_iff.1 ht.2 p hp
    cases p with
    | number digits => exact hnames
    | text value => trivial
    | type t => exact ih t hp hnames

end DataType

/-! ## Expressions -/

/-- The sorts of places where expressions stand. -/
inductive Position where
  /-- Behind `FROM`, before any name and any modifier: a dotted name or a query in brackets. -/
  | source
  /-- Under an operator, in brackets, as an argument. -/
  | operand
  /-- In the list of a `SELECT`, in a structure, or on its own: it may be named. -/
  | element
  /-- Behind `FROM`. -/
  | table
  /-- Where a query stands. -/
  | query
  deriving DecidableEq, Repr

/-- A literal as a dialect reads it. -/
def ReadableLiteral (n : DialectName) : Literal → Prop
  | .number text => Lexical.isNumeral text.toList = true
  | .hex digits => n = .clickhouse ∧ Clickhouse.isDigits Clickhouse.hexDigit digits.toList = true
  | .bits digits => n = .clickhouse ∧ Clickhouse.isDigits Clickhouse.bit digits.toList = true
  | .string _ | .boolean _ | .null => True

/-- A plain call as a dialect reads it: its name is a word that is not reserved and under which
nothing is registered, or else the empty call that a quantile comes to without arguments. -/
structure ReadableCall (n : DialectName) (name : String) (args : List Expr) : Prop where
  isWord : Text.isWord name.toList = true
  notReserved : n.lexer.isReserved name = false
  plain : (n.draft.callSyntaxes.find? name.toUpper = none ∧
      n.draft.callBuilders.find? name.toUpper = none) ∨
    (n.draft.callSyntaxes.find? name.toUpper = some .quantile ∧ args = [])

/-- An expression as a dialect reads it at a place. -/
inductive Readable (n : DialectName) (P : String → Prop) : Position → Expr → Prop where
  | identifier (id : Identifier) : Readable n P .source (.identifier id)
  | compound {parts : List Identifier} (hparts : 2 ≤ parts.length) :
    Readable n P .source (.compound parts)
  | subquery {q : Query Expr} (hq : Readable n P .query (.select q)) :
    Readable n P .source (.subquery q)
  | source {e : Expr} (he : Readable n P .source e) : Readable n P .operand e
  | literal {value : Literal} (hvalue : ReadableLiteral n value) :
    Readable n P .operand (.literal value)
  | star : Readable n P .operand .star
  | binary {left right : Expr} {op : BinaryOperator} (hleft : Readable n P .operand left)
    (hright : Readable n P .operand right)
    (hopen : Render.needsBrackets left op.precedence false = false)
    (hopen' : Render.needsBrackets right op.precedence true = false) :
    Readable n P .operand (.binary left op right)
  | unary {op : UnaryOperator} {inner : Expr} (hinner : Readable n P .operand inner)
    (hopen : Render.needsBrackets inner op.precedence false = false) :
    Readable n P .operand (.unary op inner)
  | paren {inner : Expr} (hinner : Readable n P .operand inner) :
    Readable n P .operand (.paren inner)
  | tuple {elements : List Expr} (helements : ∀ e ∈ elements, Readable n P .operand e)
    (hlength : elements.length ≠ 1) : Readable n P .operand (.tuple elements)
  | call {name : String} {args : List Expr} (hcall : ReadableCall n name args)
    (hargs : ∀ e ∈ args, Readable n P .operand e) : Readable n P .operand (.call name args)
  | struct {elements : List Expr} (surface : Option String) (hn : n ≠ .ansi)
    (helements : ∀ e ∈ elements, Readable n P .element e) :
    Readable n P .operand (.struct elements surface)
  | cast {this : Expr} {target : DataType} (hthis : Readable n P .operand this)
    (htarget : target.Names P) : Readable n P .operand (.cast this target)
  | approxDistinct {this : Expr} (hthis : Readable n P .operand this) :
    Readable n P .operand (.approxDistinct this)
  | anyValue {this : Expr} (hthis : Readable n P .operand this) :
    Readable n P .operand (.anyValue this)
  | regexpLike {this pattern : Expr} (hthis : Readable n P .operand this)
    (hpattern : Readable n P .operand pattern) : Readable n P .operand (.regexpLike this pattern)
  | quantile {this level : Expr} (hn : n = .clickhouse) (hthis : Readable n P .operand this)
    (hlevel : Readable n P .operand level) : Readable n P .operand (.quantile this level)
  | varMap {keys values : List Expr} (hn : n = .clickhouse)
    (hlength : keys.length = values.length) (hkeys : ∀ e ∈ keys, Readable n P .operand e)
    (hvalues : ∀ e ∈ values, Readable n P .operand e) : Readable n P .operand (.varMap keys values)
  | element {e : Expr} (he : Readable n P .operand e) : Readable n P .element e
  | named {e : Expr} (he : Readable n P .operand e) (name : Identifier) :
    Readable n P .element (.aliased e name)
  | table {e : Expr} (he : Readable n P .source e) : Readable n P .table e
  | namedTable {e : Expr} (he : Readable n P .source e) (name : Identifier) :
    Readable n P .table (.aliased e name)
  | final {e : Expr} (hn : n = .clickhouse) (he : Readable n P .table e) :
    Readable n P .table (.final e)
  | select {q : Query Expr} (hprojections : q.projections ≠ [])
    (hprojection : ∀ e ∈ q.projections, Readable n P .element e)
    (hsource : ∀ e ∈ q.source, Readable n P .table e)
    (hfilter : ∀ e ∈ q.filter, Readable n P .operand e)
    (hgroupBy : ∀ e ∈ q.groupBy, Readable n P .operand e)
    (hhaving : ∀ e ∈ q.having, Readable n P .operand e)
    (horderBy : ∀ o ∈ q.orderBy, Readable n P .operand o.this)
    (hlimit : ∀ e ∈ q.limit, Readable n P .operand e) : Readable n P .query (.select q)

/-- A statement as a dialect reads it: a query, or an expression that may be named. -/
def ReadableStatement (n : DialectName) (P : String → Prop) (e : Expr) : Prop :=
  Readable n P .query e ∨ Readable n P .element e

theorem Expr.unalias_of_kind_ne {e : Expr} (h : e.kind ≠ .aliased) : e.unalias = e := by
  obtain ⟨node⟩ := e
  cases node <;> first | rfl | exact absurd rfl h

/-- Operands are bound to no name. -/
theorem Readable.kind_ne_aliased {n : DialectName} {P : String → Prop} {place : Position} {e : Expr}
    (h : Readable n P place e) (hplace : place = .source ∨ place = .operand) :
    e.kind ≠ .aliased := by
  induction h with
  | source he ih => exact ih (Or.inl rfl)
  | named he name => rcases hplace with hplace | hplace <;> cases hplace
  | namedTable he name => rcases hplace with hplace | hplace <;> cases hplace
  | element he => rcases hplace with hplace | hplace <;> cases hplace
  | table he => rcases hplace with hplace | hplace <;> cases hplace
  | _ => exact fun h => nomatch h

/-- A weaker condition on the names of types leaves what is readable readable. -/
theorem Readable.mono {n : DialectName} {P Q : String → Prop} (hPQ : ∀ name, P name → Q name)
    {place : Position} {e : Expr} (h : Readable n P place e) : Readable n Q place e := by
  induction h with
  | identifier id => exact .identifier id
  | compound hparts => exact .compound hparts
  | subquery _ ih => exact .subquery ih
  | source _ ih => exact .source ih
  | literal hvalue => exact .literal hvalue
  | star => exact .star
  | binary _ _ hopen hopen' ihleft ihright => exact .binary ihleft ihright hopen hopen'
  | unary _ hopen ih => exact .unary ih hopen
  | paren _ ih => exact .paren ih
  | tuple _ hlength ih => exact .tuple ih hlength
  | call hcall _ ih => exact .call hcall ih
  | struct surface hn _ ih => exact .struct surface hn ih
  | cast _ htarget ih => exact .cast ih (htarget.mono hPQ)
  | approxDistinct _ ih => exact .approxDistinct ih
  | anyValue _ ih => exact .anyValue ih
  | regexpLike _ _ ihthis ihpattern => exact .regexpLike ihthis ihpattern
  | quantile hn _ _ ihthis ihlevel => exact .quantile hn ihthis ihlevel
  | varMap hn hlength _ _ ihkeys ihvalues => exact .varMap hn hlength ihkeys ihvalues
  | element _ ih => exact .element ih
  | named _ name ih => exact .named ih name
  | table _ ih => exact .table ih
  | namedTable _ name ih => exact .namedTable ih name
  | final hn _ ih => exact .final hn ih
  | select hne _ _ _ _ _ _ _ ih₁ ih₂ ih₃ ih₄ ih₅ ih₆ ih₇ =>
    exact .select hne ih₁ ih₂ ih₃ ih₄ ih₅ ih₆ ih₇

theorem ReadableStatement.mono {n : DialectName} {P Q : String → Prop}
    (hPQ : ∀ name, P name → Q name) {e : Expr} (h : ReadableStatement n P e) :
    ReadableStatement n Q e :=
  h.imp (·.mono hPQ) (·.mono hPQ)

end SqlDialects
