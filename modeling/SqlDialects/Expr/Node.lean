import SqlDialects.DataType
import SqlDialects.Expr.Operator

/-!
# One layer of an expression

A `Node ε` is an expression down to its subexpressions, in whose places it holds
values of `ε`.  Expressions are nodes of expressions; a node of rendered texts is
what a renderer sees once the subexpressions are done.  Keeping the layer apart
from the tree means that what is said about a layer --- its kind, its children,
how it is written --- needs no recursion at all.
-/

namespace SqlDialects

/-- A name, and whether it was written in quotes. -/
structure Identifier where
  name : String
  quoted : Bool := false
  deriving DecidableEq, Repr

/-- A literal. -/
inductive Literal where
  /-- A number as it was written, so that no precision is lost. -/
  | number (text : String)
  /-- The text that a string literal stands for. -/
  | string (value : String)
  /-- The digits of a hexadecimal literal. -/
  | hex (digits : String)
  /-- The digits of a binary literal. -/
  | bits (digits : String)
  | boolean (value : Bool)
  | null
  deriving DecidableEq, Repr

/-- The order in which rows are sorted. -/
inductive SortDirection where
  | asc
  | desc
  deriving DecidableEq, Repr

/-- A sort key. -/
structure Ordered (ε : Type) where
  this : ε
  direction : Option SortDirection
  deriving DecidableEq, Repr

/-- A `SELECT`, by its clauses. -/
structure Query (ε : Type) where
  distinct : Bool := false
  projections : List ε
  /-- A table or a subquery, perhaps aliased and under table modifiers. -/
  source : Option ε := none
  filter : Option ε := none
  groupBy : List ε := []
  having : Option ε := none
  orderBy : List (Ordered ε) := []
  limit : Option ε := none
  deriving DecidableEq, Repr

/-- One layer of an expression. -/
inductive Node (ε : Type) where
  | identifier (id : Identifier)
  /-- A dotted name. -/
  | compound (parts : List Identifier)
  | literal (value : Literal)
  | star
  | binary (left : ε) (op : BinaryOperator) (right : ε)
  | unary (op : UnaryOperator) (operand : ε)
  | paren (inner : ε)
  | tuple (elements : List ε)
  /-- An expression bound to a name. -/
  | aliased (this : ε) (name : Identifier)
  /-- A call of a function that has no form of its own. -/
  | call (name : String) (args : List ε)
  /-- Elements that may be named, and the word that they were introduced by. -/
  | struct (elements : List ε) (surface : Option String)
  | cast (this : ε) (target : DataType)
  | approxDistinct (this : ε)
  | anyValue (this : ε)
  | quantile (this level : ε)
  | regexpLike (this pattern : ε)
  /-- A map, by its keys and by its values. -/
  | varMap (keys values : List ε)
  /-- A table whose rows are merged as they are read. -/
  | final (table : ε)
  | subquery (query : Query ε)
  | select (query : Query ε)
  deriving DecidableEq, Repr

/-- What a node is, subexpressions apart. -/
inductive Kind where
  | identifier
  | compoundIdentifier
  | literal
  | star
  | binaryOp
  | unaryOp
  | paren
  | tuple
  | aliased
  | function
  | struct
  | cast
  | approxDistinct
  | anyValue
  | quantile
  | regexpLike
  | varMap
  | final
  | subquery
  | select
  deriving DecidableEq, Repr

namespace Kind

/-- Every kind. -/
def all : List Kind :=
  [.identifier, .compoundIdentifier, .literal, .star, .binaryOp, .unaryOp, .paren, .tuple, .aliased,
   .function, .struct, .cast, .approxDistinct, .anyValue, .quantile, .regexpLike, .varMap, .final,
   .subquery, .select]

/-- The name of a kind. -/
def name : Kind → String
  | identifier => "identifier"
  | compoundIdentifier => "compound_identifier"
  | literal => "literal"
  | star => "star"
  | binaryOp => "binary_op"
  | unaryOp => "unary_op"
  | paren => "paren"
  | tuple => "tuple"
  | aliased => "alias"
  | function => "function"
  | struct => "struct"
  | cast => "cast"
  | approxDistinct => "approx_distinct"
  | anyValue => "any_value"
  | quantile => "quantile"
  | regexpLike => "regexp_like"
  | varMap => "var_map"
  | final => "final"
  | subquery => "subquery"
  | select => "select"

/-- The kind of the given name. -/
def ofName? (name : String) : Option Kind := all.find? (·.name == name)

theorem mem_all (k : Kind) : k ∈ all := by
  cases k <;> decide

end Kind

namespace Ordered

/-- The sort key with its expression changed. -/
def map {ε δ : Type} (f : ε → δ) (o : Ordered ε) : Ordered δ := ⟨f o.this, o.direction⟩

end Ordered

namespace Query

variable {ε δ : Type}

/-- The query with every expression in it changed. -/
def map (f : ε → δ) (q : Query ε) : Query δ where
  distinct := q.distinct
  projections := q.projections.map f
  source := q.source.map f
  filter := q.filter.map f
  groupBy := q.groupBy.map f
  having := q.having.map f
  orderBy := q.orderBy.map (·.map f)
  limit := q.limit.map f

/-- The expressions of a query, in the order in which they are written. -/
def children (q : Query ε) : List ε :=
  q.projections ++ q.source.toList ++ q.filter.toList ++ q.groupBy ++ q.having.toList ++
    q.orderBy.map (·.this) ++ q.limit.toList

@[simp] theorem children_map (f : ε → δ) (q : Query ε) :
    (q.map f).children = q.children.map f := by
  obtain ⟨_, _, source, filter, _, having, _, limit⟩ := q
  cases source <;> cases filter <;> cases having <;> cases limit <;>
    simp [map, children, Ordered.map, Function.comp_def]

end Query

namespace Node

variable {ε δ : Type}

/-- What a node is. -/
def kind : Node ε → Kind
  | identifier _ => .identifier
  | compound _ => .compoundIdentifier
  | literal _ => .literal
  | star => .star
  | binary .. => .binaryOp
  | unary .. => .unaryOp
  | paren _ => .paren
  | tuple _ => .tuple
  | aliased .. => .aliased
  | call .. => .function
  | struct .. => .struct
  | cast .. => .cast
  | approxDistinct _ => .approxDistinct
  | anyValue _ => .anyValue
  | quantile .. => .quantile
  | regexpLike .. => .regexpLike
  | varMap .. => .varMap
  | final _ => .final
  | subquery _ => .subquery
  | select _ => .select

/-- The node with every child changed. -/
def map (f : ε → δ) : Node ε → Node δ
  | identifier id => .identifier id
  | compound parts => .compound parts
  | literal value => .literal value
  | star => .star
  | binary left op right => .binary (f left) op (f right)
  | unary op operand => .unary op (f operand)
  | paren inner => .paren (f inner)
  | tuple elements => .tuple (elements.map f)
  | aliased this name => .aliased (f this) name
  | call name args => .call name (args.map f)
  | struct elements surface => .struct (elements.map f) surface
  | cast this target => .cast (f this) target
  | approxDistinct this => .approxDistinct (f this)
  | anyValue this => .anyValue (f this)
  | quantile this level => .quantile (f this) (f level)
  | regexpLike this pattern => .regexpLike (f this) (f pattern)
  | varMap keys values => .varMap (keys.map f) (values.map f)
  | final table => .final (f table)
  | subquery query => .subquery (query.map f)
  | select query => .select (query.map f)

/-- The children of a node. -/
def children : Node ε → List ε
  | identifier _ | compound _ | literal _ | star => []
  | binary left _ right => [left, right]
  | unary _ operand => [operand]
  | paren inner => [inner]
  | tuple elements => elements
  | aliased this _ => [this]
  | call _ args => args
  | struct elements _ => elements
  | cast this _ => [this]
  | approxDistinct this => [this]
  | anyValue this => [this]
  | quantile this level => [this, level]
  | regexpLike this pattern => [this, pattern]
  | varMap keys values => keys ++ values
  | final table => [table]
  | subquery query => query.children
  | select query => query.children

/-- A node without its children. -/
def shape (n : Node ε) : Node Unit := n.map fun _ => ()

@[simp] theorem kind_map (f : ε → δ) (n : Node ε) : (n.map f).kind = n.kind := by
  cases n <;> rfl

@[simp] theorem children_map (f : ε → δ) (n : Node ε) :
    (n.map f).children = n.children.map f := by
  cases n <;> simp [map, children]

end Node

end SqlDialects
