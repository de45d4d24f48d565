/-!
# Operators

The operators of SQL expressions and how tightly they bind.  Binary operators
associate to the left, and a higher precedence binds tighter.  `NOT` lies between
`AND` and the comparisons, while a sign binds tighter than anything else.
-/

namespace SqlDialects

/-- An operator between two operands. -/
inductive BinaryOperator where
  | or
  | and
  | eq
  | notEq
  | lt
  | ltEq
  | gt
  | gtEq
  | stringConcat
  | plus
  | minus
  | multiply
  | divide
  | modulo
  deriving DecidableEq, Repr

namespace BinaryOperator

/-- Every binary operator, loosest first. -/
def all : List BinaryOperator :=
  [.or, .and, .eq, .notEq, .lt, .ltEq, .gt, .gtEq, .stringConcat, .plus, .minus, .multiply,
   .divide, .modulo]

/-- How tightly an operator binds. -/
def precedence : BinaryOperator → Nat
  | or => 1
  | and => 2
  | eq | notEq | lt | ltEq | gt | gtEq => 4
  | stringConcat => 5
  | plus | minus => 6
  | multiply | divide | modulo => 7

/-- How an operator is written. -/
def symbol : BinaryOperator → String
  | or => "OR"
  | and => "AND"
  | eq => "="
  | notEq => "<>"
  | lt => "<"
  | ltEq => "<="
  | gt => ">"
  | gtEq => ">="
  | stringConcat => "||"
  | plus => "+"
  | minus => "-"
  | multiply => "*"
  | divide => "/"
  | modulo => "%"

theorem one_le_precedence (op : BinaryOperator) : 1 ≤ op.precedence := by
  cases op <;> decide

theorem precedence_le (op : BinaryOperator) : op.precedence ≤ 7 := by
  cases op <;> decide

end BinaryOperator

/-- An operator before its operand. -/
inductive UnaryOperator where
  | not
  | minus
  | plus
  deriving DecidableEq, Repr

namespace UnaryOperator

/-- Every unary operator. -/
def all : List UnaryOperator := [.not, .minus, .plus]

/-- How tightly an operator binds. -/
def precedence : UnaryOperator → Nat
  | not => 3
  | minus | plus => 8

end UnaryOperator

end SqlDialects
