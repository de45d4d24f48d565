import SqlDialects.Expr.Tree

/-!
# Calls with a meaning of their own

A dialect may give the calls of a function a syntax of their own, or leave the
syntax as it is and build something else from the arguments.  Both are closed
vocabularies: a dialect says which function has which, never how it works.
-/

namespace SqlDialects

/-- How the rest of a call is parsed, once its name and opening bracket are past. -/
inductive CallSyntax where
  /-- Expressions with commas between them. -/
  | plain
  /-- Elements that may each carry a name. -/
  | struct
  /-- An expression and the type to cast it to. -/
  | cast
  /-- Expressions with commas between them, which make a tuple. -/
  | tuple
  /-- A level and, in brackets of its own, what it is a quantile of. -/
  | quantile
  deriving DecidableEq, Repr

/-- Why arguments do not fit a function. -/
inductive ArgumentError where
  | count (expected got : Nat)
  | odd (got : Nat)
  deriving DecidableEq, Repr

namespace ArgumentError

/-- What is wrong with the arguments. -/
def message : ArgumentError → String
  | count expected got =>
    let plural := if expected = 1 then "" else "s"
    s!"expected {expected} argument{plural}, got {got}"
  | odd got => s!"expected an even number of arguments, got {got}"

end ArgumentError

/-- The only one of a call's arguments. -/
def exactlyOne : List Expr → Except ArgumentError Expr
  | [a] => .ok a
  | args => .error (.count 1 args.length)

/-- The two arguments of a call. -/
def exactlyTwo : List Expr → Except ArgumentError (Expr × Expr)
  | [a, b] => .ok (a, b)
  | args => .error (.count 2 args.length)

/-- Every other element, from the first on and from the second on. -/
def alternate {α : Type} : List α → List α × List α
  | [] => ([], [])
  | a :: as => let (others, rest) := alternate as; (a :: rest, others)

/-- What is built from the arguments of a plain call. -/
inductive CallBuilder where
  | approxDistinct
  | anyValue
  | regexpLike
  | varMap
  deriving DecidableEq, Repr

namespace CallBuilder

/-- Builds an expression from the arguments of a plain call. -/
def build : CallBuilder → List Expr → Except ArgumentError Expr
  | approxDistinct, args => (exactlyOne args).map .approxDistinct
  | anyValue, args => (exactlyOne args).map .anyValue
  | regexpLike, args => (exactlyTwo args).map fun (this, pattern) => .regexpLike this pattern
  | varMap, args =>
    if args.length % 2 ≠ 0 then .error (.odd args.length)
    else
      let (keys, values) := alternate args
      .ok (.varMap keys values)

end CallBuilder

/-- Of an even number of elements there are as many firsts as seconds. -/
theorem length_alternate {α : Type} (as : List α) :
    (alternate as).1.length = (as.length + 1) / 2 ∧ (alternate as).2.length = as.length / 2 := by
  induction as with
  | nil => simp [alternate]
  | cons a as ih =>
    simp only [alternate, List.length_cons]
    omega

end SqlDialects
