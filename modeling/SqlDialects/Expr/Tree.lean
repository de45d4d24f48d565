import SqlDialects.Expr.Node

/-!
# Expressions

The syntax tree of SQL, free of any dialect: an expression is a node whose
children are expressions.  Only one function recurses over it.  `Expr.fold` takes
what to do at a node whose children have been dealt with, each child beside the
result for it; equality, rendering and everything else that visits a whole tree
is such a fold, and `Expr.induction` is the matching way to prove things about
it.
-/

namespace SqlDialects

/-- An expression. -/
inductive Expr where
  | mk (node : Node Expr)
  deriving Repr

namespace Expr

/-- The outermost layer of an expression. -/
def node : Expr → Node Expr
  | .mk n => n

@[simp] theorem node_mk (n : Node Expr) : (mk n).node = n := rfl

@[simp] theorem mk_node (e : Expr) : mk e.node = e := by cases e; rfl

/-! ## Building expressions -/

/-- A name. -/
@[match_pattern] abbrev identifier (id : Identifier) : Expr := .mk (.identifier id)

/-- A dotted name. -/
@[match_pattern] abbrev compound (parts : List Identifier) : Expr := .mk (.compound parts)

/-- A literal. -/
@[match_pattern] abbrev literal (value : Literal) : Expr := .mk (.literal value)

/-- All columns. -/
@[match_pattern] abbrev star : Expr := .mk .star

/-- An operator between two operands. -/
@[match_pattern] abbrev binary (left : Expr) (op : BinaryOperator) (right : Expr) : Expr :=
  .mk (.binary left op right)

/-- An operator before its operand. -/
@[match_pattern] abbrev unary (op : UnaryOperator) (operand : Expr) : Expr :=
  .mk (.unary op operand)

/-- An expression in brackets. -/
@[match_pattern] abbrev paren (inner : Expr) : Expr := .mk (.paren inner)

/-- Several expressions in brackets, or none. -/
@[match_pattern] abbrev tuple (elements : List Expr) : Expr := .mk (.tuple elements)

/-- An expression bound to a name. -/
@[match_pattern] abbrev aliased (this : Expr) (name : Identifier) : Expr :=
  .mk (.aliased this name)

/-- A call of a function that has no form of its own. -/
@[match_pattern] abbrev call (name : String) (args : List Expr) : Expr := .mk (.call name args)

/-- Elements that may be named. -/
@[match_pattern] abbrev struct (elements : List Expr) (surface : Option String) : Expr :=
  .mk (.struct elements surface)

/-- A cast. -/
@[match_pattern] abbrev cast (this : Expr) (target : DataType) : Expr := .mk (.cast this target)

/-- The estimated number of distinct values. -/
@[match_pattern] abbrev approxDistinct (this : Expr) : Expr := .mk (.approxDistinct this)

/-- Some value of a group. -/
@[match_pattern] abbrev anyValue (this : Expr) : Expr := .mk (.anyValue this)

/-- A quantile of a group. -/
@[match_pattern] abbrev quantile (this level : Expr) : Expr := .mk (.quantile this level)

/-- A match of a text against a regular expression. -/
@[match_pattern] abbrev regexpLike (this pattern : Expr) : Expr := .mk (.regexpLike this pattern)

/-- A map, by its keys and its values. -/
@[match_pattern] abbrev varMap (keys values : List Expr) : Expr := .mk (.varMap keys values)

/-- A table whose rows are merged as they are read. -/
@[match_pattern] abbrev final (table : Expr) : Expr := .mk (.final table)

/-- A query in brackets. -/
@[match_pattern] abbrev subquery (query : Query Expr) : Expr := .mk (.subquery query)

/-- A query. -/
@[match_pattern] abbrev select (query : Query Expr) : Expr := .mk (.select query)

/-- What an expression is, subexpressions apart. -/
def kind (e : Expr) : Kind := e.node.kind

/-- The immediate subexpressions. -/
def children (e : Expr) : List Expr := e.node.children

/-! ## Aliases -/

/-- The expression without the name it is bound to. -/
def unalias : Expr → Expr
  | .aliased this _ => this
  | e => e

/-- The name an expression is bound to. -/
def aliasName? : Expr → Option String
  | .aliased _ name => some name.name
  | _ => none

/-- The expression bound to a name.  One that is bound already gets the new name instead of the
one it had. -/
def withAlias (e : Expr) (name : Identifier) : Expr := .aliased e.unalias name

/-! ## Folding

The layers between an expression and its children --- lists, options, sort keys,
queries --- are walked by functions of their own, which come to nothing but
`Node.map`. -/

section Fold

variable {β : Type} (visit : Node (Expr × β) → β)

mutual

/-- The result for an expression, from what to do at a node whose children are done. -/
def fold : Expr → β
  | .mk n => visit (foldNode n)

/-- The children of a node, each beside its result. -/
def foldNode : Node Expr → Node (Expr × β)
  | .identifier id => .identifier id
  | .compound parts => .compound parts
  | .literal value => .literal value
  | .star => .star
  | .binary left op right => .binary (left, fold left) op (right, fold right)
  | .unary op operand => .unary op (operand, fold operand)
  | .paren inner => .paren (inner, fold inner)
  | .tuple elements => .tuple (foldList elements)
  | .aliased this name => .aliased (this, fold this) name
  | .call name args => .call name (foldList args)
  | .struct elements surface => .struct (foldList elements) surface
  | .cast this target => .cast (this, fold this) target
  | .approxDistinct this => .approxDistinct (this, fold this)
  | .anyValue this => .anyValue (this, fold this)
  | .quantile this level => .quantile (this, fold this) (level, fold level)
  | .regexpLike this pattern => .regexpLike (this, fold this) (pattern, fold pattern)
  | .varMap keys values => .varMap (foldList keys) (foldList values)
  | .final table => .final (table, fold table)
  | .subquery query => .subquery (foldQuery query)
  | .select query => .select (foldQuery query)

/-- The expressions of a list, each beside its result. -/
def foldList : List Expr → List (Expr × β)
  | [] => []
  | e :: es => (e, fold e) :: foldList es

/-- The expression that may be there, beside its result. -/
def foldOption : Option Expr → Option (Expr × β)
  | none => none
  | some e => some (e, fold e)

/-- The sort keys of a list, each expression beside its result. -/
def foldOrdered : List (Ordered Expr) → List (Ordered (Expr × β))
  | [] => []
  | ⟨e, direction⟩ :: es => ⟨(e, fold e), direction⟩ :: foldOrdered es

/-- The expressions of a query, each beside its result. -/
def foldQuery : Query Expr → Query (Expr × β)
  | ⟨distinct, projections, source, filter, groupBy, having, orderBy, limit⟩ =>
    ⟨distinct, foldList projections, foldOption source, foldOption filter, foldList groupBy,
      foldOption having, foldOrdered orderBy, foldOption limit⟩

end

/-- An expression beside its result. -/
def withFold (e : Expr) : Expr × β := (e, e.fold visit)

theorem foldList_eq (es : List Expr) : foldList visit es = es.map (withFold visit) := by
  induction es with
  | nil => rfl
  | cons e es ih => rw [foldList, ih]; rfl

theorem foldOption_eq (e : Option Expr) : foldOption visit e = e.map (withFold visit) := by
  cases e <;> rfl

theorem foldOrdered_eq (es : List (Ordered Expr)) :
    foldOrdered visit es = es.map (·.map (withFold visit)) := by
  induction es with
  | nil => rfl
  | cons e es ih => rw [foldOrdered, ih]; rfl

theorem foldQuery_eq (q : Query Expr) : foldQuery visit q = q.map (withFold visit) := by
  obtain ⟨⟩ := q
  simp [foldQuery, Query.map, foldList_eq, foldOption_eq, foldOrdered_eq]

theorem foldNode_eq (n : Node Expr) : foldNode visit n = n.map (withFold visit) := by
  cases n <;> simp [foldNode, Node.map, withFold, foldList_eq, foldQuery_eq]

/-- What a fold does at a node. -/
theorem fold_mk (n : Node Expr) : (mk n).fold visit = visit (n.map (withFold visit)) := by
  rw [fold, foldNode_eq]

end Fold

/-! ## Induction -/

section Induction

variable {P : Expr → Prop}

/-- A property that passes from the children of every node to the node holds of all expressions. -/
theorem induction (step : ∀ n : Node Expr, (∀ e ∈ n.children, P e) → P (.mk n)) (e : Expr) :
    P e := by
  refine @Expr.rec P (fun n => ∀ e ∈ n.children, P e) (fun es => ∀ e ∈ es, P e)
    (fun q => ∀ e ∈ q.children, P e) (fun o => ∀ e ∈ o.toList, P e)
    (fun os => ∀ o ∈ os, P o.this) (fun o => P o.this)
    step ?_ ?_ ?_ ?_ ?_ ?_ ?_ ?_ ?_ ?_ ?_ ?_ ?_ ?_ ?_ ?_ ?_ ?_ ?_ ?_ ?_ ?_ ?_ ?_ ?_ ?_ ?_ ?_ e
  case refine_23 =>
    intro _ projections source filter groupBy having orderBy limit h₁ h₂ h₃ h₄ h₅ h₆ h₇ e he
    simp only [Query.children, List.mem_append, List.mem_map] at he
    rcases he with (((((he | he) | he) | he) | he) | ⟨o, ho, rfl⟩) | he
    · exact h₁ e he
    · exact h₂ e he
    · exact h₃ e he
    · exact h₄ e he
    · exact h₅ e he
    · exact h₆ o ho
    · exact h₇ e he
  all_goals simp +contextual [Node.children, or_imp]

end Induction

end Expr

end SqlDialects
