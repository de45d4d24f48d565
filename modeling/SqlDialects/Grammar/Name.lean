import SqlDialects.Cursor
import SqlDialects.Dialect.Basic
import SqlDialects.Quoting

/-!
# Names, strings and types

The leaves of the grammar that are more than a token: names, with or without
quotes and dots, the names that things are bound to, and the texts of string
literals.

A type is a word, which may be a keyword, and parameters in brackets.  The name
is resolved to its canonical form; that happens after the parameters are read,
but does not depend on them.
-/

namespace SqlDialects.Grammar

/-! ## Names and strings -/

/-- A name. -/
def identifier : Parser Identifier := do
  match (← Parser.peek).kind with
  | .word => return ⟨(← Parser.advance).text, false⟩
  | .quotedIdentifier => return ⟨Quoting.readName (← Parser.advance).text, true⟩
  | _ => Parser.unexpected ["identifier"]

/-- A name, perhaps with more names behind dots. -/
def column : Parser Expr := do
  let first ← identifier
  let rest ← Parser.many do
    if ← Parser.consume .dot then return some (← identifier) else return none
  return if rest.isEmpty then .identifier first else .compound (first :: rest)

/-- The name that something is bound to: behind `AS`, or, where the word may be left out, any name
that comes next. -/
def binding (implicit : Bool) : Parser (Option Identifier) := do
  if ← Parser.consumeKeyword "AS" then return some (← identifier)
  let kind := (← Parser.peek).kind
  if implicit && (kind == .word || kind == .quotedIdentifier) then
    return some (← identifier)
  return none

/-- The expression, bound to a name if there is one. -/
def bind (e : Expr) : Option Identifier → Expr
  | none => e
  | some name => e.withAlias name

/-- The text of a string literal. -/
def stringValue (d : Dialect) (token : Token) : Parser String :=
  match Quoting.readString? d.stringEscape? token.text with
  | none => throw (.fault .brokenLiteral)
  | some value => pure value

/-- The digits of a hexadecimal or binary literal, which follow two bytes of mark. -/
def digitsOf (token : Token) : Parser String :=
  match Text.splitAtByte? 2 token.text.toList with
  | none => throw (.fault .brokenLiteral)
  | some (_, digits) => pure (.ofList digits)

/-! ## Types -/

variable (d : Dialect) (nested : Parser DataType)

/-- A parameter of a type. -/
def typeParam : Parser (TypeParam DataType) := do
  match (← Parser.peek).kind with
  | .numericLiteral => return .number (← Parser.advance).text
  | .stringLiteral => return .text (← stringValue d (← Parser.advance))
  | .word | .keyword => return .type (← nested)
  | _ => Parser.unexpected ["type parameter"]

/-- A type, given how to parse the types among its parameters. -/
def typeLayer : Parser DataType := do
  match (← Parser.peek).kind with
  | .word | .keyword =>
    let name := (← Parser.advance).key
    let params ←
      if ← Parser.consume .startBracket then Parser.csvToEndBracket (typeParam d nested)
      else pure []
    return .mk (d.canonicalType name) params
  | _ => Parser.unexpected ["data type"]

/-- A type. -/
def dataType (c : Cursor) : Parsed DataType :=
  typeLayer d (Parser.descend c fun inner _ => dataType inner) c
termination_by c.remaining

end SqlDialects.Grammar
