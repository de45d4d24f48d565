import SqlDialects.Proofs.RoundTrip.Canonical

/-!
# Expressions of another dialect

A dialect can write most of what another one reads, and most of that it would read
as the same.  Two forms it knows only from the outside: standard SQL and BigQuery
write a hexadecimal or binary literal as the number that it stands for, and standard
SQL writes a structure as if it were a call.  `DialectName.adapt` puts in their place
what such a text is read as.

What was read in one dialect, can be written in another, and calls no function that
means something there, is readable there once it is adapted (`Readable.adapt`).  That
it can be written is what rules the rest out: structures with named fields,
quantiles, maps, merged tables.  ClickHouse writes all of these, but then the other
dialects do not read them.
-/

namespace SqlDialects

/-! ## Adapting -/

/-- The number that digits stand for. -/
def Literal.decimal? (radix : Nat) (digits : String) : Option Literal :=
  (Numeral.readNatural? radix digits.toList).map fun value => .number (toString value)

/-- A literal as a decimal number, if it is digits of another radix. -/
def Literal.inDecimal : Literal → Literal
  | .hex digits => (decimal? 16 digits).getD (.hex digits)
  | .bits digits => (decimal? 2 digits).getD (.bits digits)
  | value => value

namespace DialectName

variable (n : DialectName)

/-- A literal as the dialect has it. -/
def adaptLiteral (value : Literal) : Literal :=
  if n = .clickhouse then value else value.inDecimal

/-- A node as the dialect has it. -/
def adaptNode : Node Expr → Node Expr
  | .literal value => .literal (n.adaptLiteral value)
  | .struct elements surface =>
    if n = .ansi then .call "STRUCT" elements else .struct elements surface
  | node => node

/-- An expression with what the dialect has no form of its own for in the forms that it has
instead: digits as decimal numbers, structures as calls. -/
def adapt : Expr → Expr := Expr.mapNodes n.adaptNode

theorem adapt_mk (node : Node Expr) : n.adapt (.mk node) = .mk (n.adaptNode (node.map n.adapt)) :=
  Expr.mapNodes_mk n.adaptNode node

theorem precedence?_adapt (e : Expr) : Render.precedence? (n.adapt e) = Render.precedence? e := by
  obtain ⟨node⟩ := e
  rw [adapt_mk]
  cases node with
  | struct elements surface => cases n <;> rfl
  | _ => rfl

theorem isNamed_adapt (e : Expr) : Render.isNamed (n.adapt e) = Render.isNamed e := by
  obtain ⟨node⟩ := e
  rw [adapt_mk]
  cases node with
  | struct elements surface => cases n <;> rfl
  | _ => rfl

theorem needsBrackets_adapt (e : Expr) (outer : Nat) (onRight : Bool) :
    Render.needsBrackets (n.adapt e) outer onRight = Render.needsBrackets e outer onRight := by
  unfold Render.needsBrackets
  rw [precedence?_adapt]

end DialectName

/-! ## Calls that mean nothing -/

/-- The names under which an expression calls functions that have no form of their own. -/
def Expr.callNames : Expr → List String :=
  fold fun node =>
    (match node with
      | .call name _ => [name]
      | _ => []) ++ node.children.flatMap (·.2)

theorem Expr.callNames_mk (node : Node Expr) :
    callNames (.mk node) = (match node with
      | .call name _ => [name]
      | _ => []) ++ node.children.flatMap callNames := by
  rw [callNames, fold_mk, Node.children_map, List.flatMap_map]
  cases node <;> rfl

/-- A name means nothing to a dialect but itself: it is not reserved, and no call under it is
parsed or built in a way of its own. -/
def Dialect.IsPlainCall (d : Dialect) (name : String) : Prop :=
  d.isReserved name = false ∧ d.callSyntaxes.binds name.toUpper = false ∧
    d.callBuilders.binds name.toUpper = false

instance (d : Dialect) (name : String) : Decidable (d.IsPlainCall name) :=
  inferInstanceAs (Decidable (_ ∧ _ ∧ _))

/-- All functions that an expression calls without a form of their own mean nothing to a
dialect. -/
def Dialect.CallsPlainly (d : Dialect) (e : Expr) : Prop := ∀ name ∈ e.callNames, d.IsPlainCall name

theorem Dialect.CallsPlainly.of_mem_children {d : Dialect} {e c : Expr} (h : d.CallsPlainly e)
    (hc : c ∈ e.children) : d.CallsPlainly c := by
  obtain ⟨node⟩ := e
  intro name hname
  refine h name ?_
  rw [Expr.callNames_mk]
  exact List.mem_append_right _ (List.mem_flatMap.2 ⟨c, hc, hname⟩)

theorem Dialect.CallsPlainly.isPlainCall {d : Dialect} {name : String} {args : List Expr}
    (h : d.CallsPlainly (.call name args)) : d.IsPlainCall name := by
  refine h name ?_
  rw [Expr.callNames_mk]
  exact List.mem_append_left _ List.mem_cons_self

end SqlDialects
