import SqlDialects.Proofs.Expr.Layer
import SqlDialects.Render.Node

/-!
# The canonical form of an expression

Reading what a dialect wrote does not give the expression that was written but one
that the dialect writes in the same way.  The two differ where the text shows a
choice that the expression had left open, and nowhere else:

* a name that the dialect puts in quotes is read as a quoted name;
* the name of a plain call is read in the case that the dialect writes it in;
* a structure is read with the word that the dialect writes before its elements;
* the name of a type is read as whatever canonical name the dialect has for its
  own spelling of it.

`Dialect.canon` makes these choices throughout an expression.  It is a map of
nodes, so it can lose, move or regroup nothing.
-/

namespace SqlDialects

/-! ## Types -/

namespace DataType

/-- A property that passes from the types among the parameters of every type to the type holds of
all types. -/
theorem induction {P : DataType → Prop}
    (step : ∀ name params, (∀ t, TypeParam.type t ∈ params → P t) → P (.mk name params))
    (t : DataType) : P t := by
  refine @DataType.rec P (fun ps => ∀ t, TypeParam.type t ∈ ps → P t)
    (fun p => ∀ t, p = TypeParam.type t → P t) step ?_ ?_ ?_ ?_ ?_ t
  · intro t ht
    exact absurd ht List.not_mem_nil
  · intro p ps hp hps t ht
    rcases List.mem_cons.1 ht with ht | ht
    · exact hp t ht.symm
    · exact hps t ht
  · intro digits t ht
    cases ht
  · intro value t ht
    cases ht
  · intro t ht u hu
    cases hu
    exact ht

section Rename

variable (f : String → String)

mutual

/-- The type with every name in it changed. -/
def rename : DataType → DataType
  | .mk name params => .mk (f name) (renameParams params)

/-- The parameters of a type with every name in them changed. -/
def renameParams : List (TypeParam DataType) → List (TypeParam DataType)
  | [] => []
  | p :: ps => renameParam p :: renameParams ps

/-- A parameter of a type with every name in it changed. -/
def renameParam : TypeParam DataType → TypeParam DataType
  | .number digits => .number digits
  | .text value => .text value
  | .type t => .type (rename t)

end

end Rename

theorem renameParams_eq_map (f : String → String) (ps : List (TypeParam DataType)) :
    renameParams f ps = ps.map (renameParam f) := by
  induction ps with
  | nil => rfl
  | cons p ps ih => rw [renameParams, ih, List.map_cons]

end DataType

/-! ## Expressions -/

namespace Dialect

variable (d : Dialect)

/-- The name as it is read after it was written. -/
def canonIdentifier (id : Identifier) : Identifier := { id with quoted := d.quotes id }

/-- The name of a type as it is read after it was written. -/
def canonTypeName (name : String) : String := d.canonicalType (d.typeName name).toUpper

/-- The type as it is read after it was written. -/
def canonType : DataType → DataType := DataType.rename d.canonTypeName

/-- The word that the dialect writes before the elements of a structure. -/
def structWord (surface : Option String) : String :=
  match d.renderings.find? .struct with
  | some .tuple => Render.tupleWord surface
  | _ => "STRUCT"

/-- The node as it is read after it was written, its children apart. -/
def canonNode : Node Expr → Node Expr
  | .identifier id => .identifier (d.canonIdentifier id)
  | .compound parts => .compound (parts.map d.canonIdentifier)
  | .aliased this name => .aliased this (d.canonIdentifier name)
  | .call name args => .call (d.style.callCase.apply name) args
  | .struct elements surface => .struct elements (some (d.structWord surface))
  | .cast this target => .cast this (d.canonType target)
  | n => n

/-- The expression as it is read after it was written. -/
def canon : Expr → Expr := Expr.mapNodes d.canonNode

/-- The query as it is read after it was written. -/
def canonQuery (q : Query Expr) : Query Expr := q.map d.canon

theorem canon_mk (n : Node Expr) : d.canon (.mk n) = .mk (d.canonNode (n.map d.canon)) :=
  Expr.mapNodes_mk d.canonNode n

end Dialect

end SqlDialects
