import SqlDialects.Grammar.Query

/-!
# Expressions and statements

Operands and operators.  `layer least` parses an expression whose operators bind
at least as tightly as `least`: an operand, and then operators, each with a right
operand that binds tighter than itself, gathered from the left.  A prefix `NOT`
binds looser than comparisons and arithmetic, so it begins no operand of theirs.

The grammar refers to itself only through operands, calls and queries, and never
before a token is taken; `operand` ties the knot.

A statement is a query or a bare expression, which may be named.  Statements are
separated by semicolons; more semicolons than that change nothing.
-/

namespace SqlDialects.Grammar

/-- The binary operator that a token is. -/
def binaryOperator? (t : Token) : Option BinaryOperator :=
  match t.kind with
  | .plus => some .plus
  | .minus => some .minus
  | .star => some .multiply
  | .divide => some .divide
  | .percent => some .modulo
  | .concat => some .stringConcat
  | .equals => some .eq
  | .notEquals => some .notEq
  | .lessThan => some .lt
  | .lessThanOrEqual => some .ltEq
  | .greaterThan => some .gt
  | .greaterThanOrEqual => some .gtEq
  | .keyword =>
    if t.isKeyword "AND" then some .and
    else if t.isKeyword "OR" then some .or
    else none
  | _ => none

/-- The operator before an operand that a token is. -/
def unaryOperator? (t : Token) : Option UnaryOperator :=
  match t.kind with
  | .keyword => if t.isKeyword "NOT" then some .not else none
  | .minus => some .minus
  | .plus => some .plus
  | _ => none

section Layer

variable (d : Dialect) (nested : Nat → Parser Expr)

/-- What stands in brackets: a query, one expression, or a tuple. -/
def bracketed : Parser Expr := do
  discard (Parser.expect .startBracket "'('")
  if ← Parser.checkKeyword "SELECT" then
    let inner ← query d nested
    discard Parser.expectEndBracket
    return .subquery inner
  match ← Parser.csvToEndBracket (nested 0) with
  | [inner] => return .paren inner
  | elements => return .tuple elements

/-- A keyword that is an operand. -/
def keywordLiteral? (t : Token) : Option Literal :=
  if t.isKeyword "NULL" then some .null
  else if t.isKeyword "TRUE" then some (.boolean true)
  else if t.isKeyword "FALSE" then some (.boolean false)
  else none

/-- An operand without operators. -/
def primary : Parser Expr := do
  let token ← Parser.peek
  match token.kind with
  | .numericLiteral =>
    discard Parser.advance
    return .literal (.number token.text)
  | .stringLiteral =>
    discard Parser.advance
    return .literal (.string (← stringValue d token))
  | .hexStringLiteral =>
    discard Parser.advance
    return .literal (.hex (← digitsOf token))
  | .bitStringLiteral =>
    discard Parser.advance
    return .literal (.bits (← digitsOf token))
  | .star =>
    discard Parser.advance
    return .star
  | .keyword =>
    match keywordLiteral? token with
    | some value =>
      discard Parser.advance
      return .literal value
    | none => Parser.unexpected ["expression"]
  | .startBracket => bracketed d nested
  | .word =>
    if (← Parser.peekAhead 1).kind == .startBracket then call d nested else column
  | .quotedIdentifier => column
  | _ => Parser.unexpected ["expression"]

/-- An operand, with operators before it. -/
def prefixed (least : Nat) : Parser Expr := do
  match unaryOperator? (← Parser.peek) with
  | some op =>
    if op = .not ∧ UnaryOperator.not.precedence < least then
      Parser.unexpected ["expression"]
    else
      discard Parser.advance
      return .unary op (← nested op.precedence)
  | none => primary d nested

/-- An operator that binds tightly enough, and its right operand. -/
def operation? (least : Nat) : Parser (Option (BinaryOperator × Expr)) := do
  match binaryOperator? (← Parser.peek) with
  | some op =>
    if op.precedence < least then return none
    else
      discard Parser.advance
      return some (op, ← nested (op.precedence + 1))
  | none => return none

/-- An operand and operations on it, from the left. -/
def operations (first : Expr) (rest : List (BinaryOperator × Expr)) : Expr :=
  rest.foldl (fun left (op, right) => .binary left op right) first

/-- An expression whose operators bind at least so tightly, given how to parse its operands. -/
def layer (least : Nat) : Parser Expr := do
  let first ← prefixed d nested least
  let rest ← Parser.many (operation? nested least)
  return operations first rest

end Layer

variable (d : Dialect)

/-- An expression whose operators bind at least so tightly. -/
def operand (least : Nat) (c : Cursor) : Parsed Expr :=
  layer d (fun least => Parser.descend c fun inner _ => operand least inner) least c
termination_by c.remaining

/-- Any expression. -/
def expression : Parser Expr := operand d 0

/-- An expression, with a name behind `AS` if there is one. -/
def aliasedExpression : Parser Expr := namedExpression (operand d)

/-- A call. -/
def functionCall : Parser Expr := call d (operand d)

/-- A query. -/
def select : Parser (Query Expr) := query d (operand d)

/-! ## Statements -/

/-- A statement. -/
def statement : Parser Expr := do
  if ← Parser.checkKeyword "SELECT" then return .select (← select d)
  aliasedExpression d

/-- A semicolon, if there is one. -/
def semicolon? : Parser (Option Unit) := do
  return if ← Parser.consume .semicolon then some () else none

/-- The next statement, behind any semicolons, if there is one before the end. -/
def nextStatement? : Parser (Option Expr) := do
  discard (Parser.many semicolon?)
  if ← Parser.check .endOfFile then return none
  let e ← statement d
  let kind := (← Parser.peek).kind
  if kind == .semicolon || kind == .endOfFile then return some e
  Parser.unexpected ["';'", "end of input"]

/-- All statements up to the end. -/
def statements : Parser (List Expr) := do
  let found ← Parser.many (nextStatement? d)
  Parser.note (.parsed found.length)
  return found

/-- One statement, perhaps with a semicolon behind it, and nothing else. -/
def onlyStatement : Parser Expr := do
  let e ← statement d
  discard (Parser.consume .semicolon)
  discard (Parser.expect .endOfFile "end of input")
  return e

end SqlDialects.Grammar
