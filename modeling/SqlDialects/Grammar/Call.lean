import SqlDialects.Grammar.Name

/-!
# Calls

A call is a name, an opening bracket and whatever its syntax says, up to and with
a closing bracket.  The syntax is the one that the dialect registers for the name
in uppercase, or the plain one.  `nested` parses an operand of the given
precedence or tighter, so `nested 0` is any expression.
-/

namespace SqlDialects.Grammar

variable (d : Dialect) (nested : Nat → Parser Expr)

/-- An expression, with a name behind `AS` if there is one. -/
def namedExpression : Parser Expr := do
  let e ← nested 0
  return bind e (← binding false)

/-- The rest of a plain call.  What it makes is up to the builder that the dialect registers for
its name. -/
def plainCall (name : Token) : Parser Expr := do
  let args ← Parser.csvToEndBracket (nested 0)
  match d.callBuilders.find? name.key with
  | some builder => Parser.built name (builder.build args)
  | none => return .call name.text args

/-- The rest of a cast. -/
def castCall : Parser Expr := do
  let this ← nested 0
  discard (Parser.expectKeyword "AS")
  let target ← dataType d
  discard Parser.expectEndBracket
  return .cast this target

/-- The rest of a quantile: a level, and in brackets of its own what it is a quantile of.  With
one pair of brackets it is the median of what they hold, and with nothing in them no quantile at
all. -/
def quantileCall (name : Token) : Parser Expr := do
  let params ← Parser.csvToEndBracket (nested 0)
  if ← Parser.consume .startBracket then
    let level ← Parser.built name (exactlyOne params)
    let args ← Parser.csvToEndBracket (nested 0)
    let this ← Parser.built name (exactlyOne args)
    return .quantile this level
  else if params.isEmpty then
    return .call name.text []
  else
    let this ← Parser.built name (exactlyOne params)
    return .quantile this (.literal (.number "0.5"))

/-- The rest of a call in a syntax. -/
def callRest (name : Token) : CallSyntax → Parser Expr
  | .plain => plainCall d nested name
  | .struct => do
    let elements ← Parser.csvToEndBracket (namedExpression nested)
    return .struct elements (some name.text)
  | .cast => castCall d nested
  | .tuple => do return .tuple (← Parser.csvToEndBracket (nested 0))
  | .quantile => quantileCall nested name

/-- A call. -/
def call : Parser Expr := do
  let name ← Parser.expect .word "function name"
  discard (Parser.expect .startBracket "'('")
  match d.callSyntaxes.find? name.key with
  | some callSyntax =>
    Parser.note (.ownParsing d.name name.text)
    callRest d nested name callSyntax
  | none => plainCall d nested name

end SqlDialects.Grammar
