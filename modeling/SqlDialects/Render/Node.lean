import SqlDialects.Render.Leaf
import SqlDialects.Traced

/-!
# One node as text

How a dialect writes a node whose children are written already.  A child comes as
the expression that it is and as its text, because whether it needs brackets, or
may be written at all, depends on what it is.

A text is a traced computation: its notes tell where the dialect went its own
way, and it may end in a node that the dialect cannot write.  A child that is not
used leaves no notes and no error.
-/

namespace SqlDialects

/-- The text of an expression, or a node in it that cannot be written. -/
abbrev Sql := Traced Unsupported String

/-- An expression beside its text. -/
abbrev Child := Expr × Sql

/-- All values of a list of computations, or the first error. -/
def Traced.all {ε α : Type} : List (Traced ε α) → Traced ε (List α)
  | [] => pure []
  | x :: xs => do
    let a ← x
    let as ← Traced.all xs
    return a :: as

namespace Render

/-- Several texts with commas between them. -/
def list (children : List Child) : Sql := do
  return String.intercalate ", " (← Traced.all (children.map (·.2)))

/-- Several texts with commas between them, in brackets behind a word. -/
def called (word : String) (args : List Child) : Sql := do
  return word ++ "(" ++ (← list args) ++ ")"

/-- How tightly an expression binds that is made by an operator. -/
def precedence? (e : Expr) : Option Nat :=
  match e with
  | .binary _ op _ => some op.precedence
  | .unary op _ => some op.precedence
  | _ => none

/-- Whether an operand needs brackets under an operator of the given precedence.  Operators gather
to the left, so on the right equal precedence is not enough. -/
def needsBrackets (e : Expr) (outer : Nat) (onRight : Bool) : Bool :=
  match precedence? e with
  | none => false
  | some inner => inner < outer || (onRight && inner == outer)

/-- An operand, in brackets if it needs them. -/
def operand (child : Child) (outer : Nat) (onRight : Bool) : Sql := do
  let text ← child.2
  return if needsBrackets child.1 outer onRight then "(" ++ text ++ ")" else text

/-- An operator before its operand.  Two minus signs would begin a comment. -/
def prefixed (op : UnaryOperator) (text : String) : String :=
  match op with
  | .not => "NOT " ++ text
  | .minus => if text.toList.head? = some '-' then "- " ++ text else "-" ++ text
  | .plus => "+" ++ text

/-- A sort key. -/
def sortKey (key : Ordered Child) : Sql := do
  let text ← key.this.2
  return match key.direction with
    | some .asc => text ++ " ASC"
    | some .desc => text ++ " DESC"
    | none => text

/-- A clause with one expression, if it is there. -/
def clause (words : String) : Option Child → Sql
  | none => return ""
  | some child => do return " " ++ words ++ " " ++ (← child.2)

/-- A clause with several expressions, if there are any. -/
def clauseList (words : String) (texts : List Sql) : Sql := do
  if texts.isEmpty then return ""
  return " " ++ words ++ " " ++ String.intercalate ", " (← Traced.all texts)

/-- A query. -/
def query (q : Query Child) : Sql := do
  let projections ← list q.projections
  let source ← clause "FROM" q.source
  let filter ← clause "WHERE" q.filter
  let groupBy ← clauseList "GROUP BY" (q.groupBy.map (·.2))
  let having ← clause "HAVING" q.having
  let orderBy ← clauseList "ORDER BY" (q.orderBy.map sortKey)
  let limit ← clause "LIMIT" q.limit
  return "SELECT " ++ (if q.distinct then "DISTINCT " else "") ++ projections ++ source ++ filter ++
    groupBy ++ having ++ orderBy ++ limit

/-- Whether an expression is bound to a name. -/
def isNamed (e : Expr) : Bool := e.aliasName?.isSome

variable (d : Dialect)

/-- The dialect cannot write a node. -/
def unsupported (n : Node Child) : Sql := .fail ⟨n.kind, d.name⟩

/-- A plain call, with its name cased in the dialect's style. -/
def call (name : String) (args : List Child) : Sql := called (d.style.callCase.apply name) args

/-- A node as every dialect writes it that has no way of its own.  Standard SQL has no way to name
the fields of a structure, and none to write quantiles, maps and merged tables. -/
def plain (n : Node Child) : Sql :=
  match n with
  | .identifier id => return d.writeIdentifier id
  | .compound parts => return String.intercalate "." (parts.map d.writeIdentifier)
  | .literal value =>
    match d.writeLiteral? value with
    | some text => return text
    | none => unsupported d n
  | .star => return "*"
  | .binary left op right => do
    let leftText ← operand left op.precedence false
    let rightText ← operand right op.precedence true
    return leftText ++ " " ++ op.symbol ++ " " ++ rightText
  | .unary op inner => do return prefixed op (← operand inner op.precedence false)
  | .paren inner => do return "(" ++ (← inner.2) ++ ")"
  | .tuple elements => called "" elements
  | .aliased this name => do return (← this.2) ++ " AS " ++ d.writeIdentifier name
  | .call name args => call d name args
  | .struct elements _ =>
    if elements.any fun child => isNamed child.1 then unsupported d n
    else called "STRUCT" elements
  | .cast this target => do return "CAST(" ++ (← this.2) ++ " AS " ++ d.writeType target ++ ")"
  | .approxDistinct this => call d "APPROX_DISTINCT" [this]
  | .anyValue this => call d "ANY_VALUE" [this]
  | .regexpLike this pattern => call d "REGEXP_LIKE" [this, pattern]
  | .quantile .. | .varMap .. | .final _ => unsupported d n
  | .subquery q => do return "(" ++ (← query q) ++ ")"
  | .select q => query q

/-- The word before the elements of a tuple: the one that was written, if it is `tuple` in some
case. -/
def tupleWord : Option String → String
  | some surface => if Text.sameIgnoringCase surface "tuple" then surface else "tuple"
  | none => "tuple"

/-- A node as a dialect writes it in a way of its own.  A way that is not meant for the node comes
to the plain one. -/
def own (r : Rendering) (n : Node Child) : Sql :=
  match r, n with
  | .renamed name, .approxDistinct this => called name [this]
  | .renamed name, .anyValue this => called name [this]
  | .renamed name, .regexpLike this pattern => called name [this, pattern]
  | .renamed name, .call _ args => called name args
  | .fixed text, _ => return text
  | .unsupported, _ => unsupported d n
  | .struct, .struct elements _ => called "STRUCT" elements
  | .tuple, .struct elements surface => called (tupleWord surface) elements
  | .quantile, .quantile this level => do
    let levelText ← level.2
    let thisText ← this.2
    return "quantile(" ++ levelText ++ ")(" ++ thisText ++ ")"
  | .map, .varMap keys values => called "map" ((keys.zip values).flatMap fun (k, v) => [k, v])
  | .final, .final table => do return (← table.2) ++ " FINAL"
  | .literal, .literal (.hex digits) => return "0x" ++ digits
  | .literal, .literal (.bits digits) => return "0b" ++ digits
  | _, _ => plain d n

/-- A node as a dialect writes it. -/
def node (n : Node Child) : Sql :=
  match d.renderings.find? n.kind with
  | some r => do
    Traced.note (.ownRendering d.name n.kind)
    own d r n
  | none => plain d n

end Render

/-- An expression as a dialect writes it. -/
def Dialect.render (d : Dialect) : Expr → Sql := Expr.fold (Render.node d)

/-- What a dialect writes for a node depends on its children only through their texts. -/
theorem Dialect.render_mk (d : Dialect) (n : Node Expr) :
    d.render (.mk n) = Render.node d (n.map fun e => (e, d.render e)) :=
  Expr.fold_mk (Render.node d) n

end SqlDialects
