import SqlDialects.Grammar.Expression

/-!
# The grammar of expressions, level by level

`Grammar.operand` climbs: one loop gathers operators of every precedence, and a
number says how tightly they have to bind.  The grammar that it stands for has no
numbers.  It has a level for each kind of operator, loosest first,

    disjunction    ::=  conjunction (OR conjunction)*
    conjunction    ::=  negation (AND negation)*
    negation       ::=  NOT negation | comparison
    comparison     ::=  concatenation ((= | <> | < | <= | > | >=) concatenation)*
    concatenation  ::=  sum (|| sum)*
    sum            ::=  product ((+ | -) product)*
    product        ::=  signed ((* | / | %) signed)*
    signed         ::=  (+ | -) signed | primary

and this file parses it by plain recursive descent.  An operator is recognised on
the level that lists it and on no other, nothing is compared, and `NOT` needs no
rule against standing where it may not: no level below negation knows it.

## Where the levels meet again

A level hands the first of its operands to the next level, on the spot.  The
operands behind an operator, and the expressions inside a primary, begin further
on, and there the descent starts afresh: `level` ties that knot, as
`Grammar.operand` does for the climbing parser.
-/

namespace SqlDialects.Grammar

/-- The levels of the grammar of expressions, loosest first. -/
inductive Level where
  | disjunction
  | conjunction
  | negation
  | comparison
  | concatenation
  | sum
  | product
  | signed
  deriving DecidableEq, Repr

namespace Stratified

/-- The sign that a token is. -/
def sign? (t : Token) : Option UnaryOperator :=
  match t.kind with
  | .minus => some .minus
  | .plus => some .plus
  | _ => none

/-- One of some operators, and its right operand. -/
def operationAmong? (ops : List BinaryOperator) (right : Parser Expr) :
    Parser (Option (BinaryOperator × Expr)) := do
  match (binaryOperator? (← Parser.peek)).filter ops.contains with
  | some op =>
    discard Parser.advance
    return some (op, ← right)
  | none => return none

/-- Operands with some operators between them, gathered from the left. -/
def chain (ops : List BinaryOperator) (first right : Parser Expr) : Parser Expr := do
  let head ← first
  let rest ← Parser.many (operationAmong? ops right)
  return operations head rest

section Layers

variable (d : Dialect) (nested : Level → Parser Expr)

/-- A primary, with signs before it. -/
def signed : Parser Expr := do
  match sign? (← Parser.peek) with
  | some op =>
    discard Parser.advance
    return .unary op (← nested .signed)
  | none => primary d fun _ => nested .disjunction

/-- Factors. -/
def product : Parser Expr :=
  chain [.multiply, .divide, .modulo] (signed d nested) (nested .signed)

/-- Summands. -/
def sum : Parser Expr := chain [.plus, .minus] (product d nested) (nested .product)

/-- Texts that are strung together. -/
def concatenation : Parser Expr := chain [.stringConcat] (sum d nested) (nested .sum)

/-- What is compared. -/
def comparison : Parser Expr :=
  chain [.eq, .notEq, .lt, .ltEq, .gt, .gtEq] (concatenation d nested) (nested .concatenation)

/-- A comparison, with `NOT` before it. -/
def negation : Parser Expr := do
  if ← Parser.consumeKeyword "NOT" then return .unary .not (← nested .negation)
  comparison d nested

/-- Conditions that all have to hold. -/
def conjunction : Parser Expr := chain [.and] (negation d nested) (nested .negation)

/-- Conditions of which one has to hold. -/
def disjunction : Parser Expr := chain [.or] (conjunction d nested) (nested .conjunction)

/-- A level, given how to parse the levels that begin further on. -/
def layer : Level → Parser Expr
  | .disjunction => disjunction d nested
  | .conjunction => conjunction d nested
  | .negation => negation d nested
  | .comparison => comparison d nested
  | .concatenation => concatenation d nested
  | .sum => sum d nested
  | .product => product d nested
  | .signed => signed d nested

end Layers

variable (d : Dialect)

/-- An expression of a level. -/
def level (l : Level) (c : Cursor) : Parsed Expr :=
  layer d (fun l => Parser.descend c fun inner _ => level l inner) l c
termination_by c.remaining

/-- Any expression. -/
def expression : Parser Expr := level d .disjunction

end Stratified

end SqlDialects.Grammar
