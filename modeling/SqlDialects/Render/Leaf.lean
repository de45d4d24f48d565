import SqlDialects.Dialect.Basic
import SqlDialects.Numeral.Read
import SqlDialects.Quoting

/-!
# Names, literals and types as text

What a dialect writes for the parts of an expression that hold no expressions.
None of this leaves notes.
-/

namespace SqlDialects

/-- A node that a dialect has no way to write. -/
structure Unsupported where
  kind : Kind
  dialect : DialectName
  deriving DecidableEq, Repr

/-- What cannot be written, and where. -/
def Unsupported.message (u : Unsupported) : String :=
  s!"{u.kind.name} expressions are not supported by the {u.dialect.name} dialect"

namespace Dialect

variable (d : Dialect)

/-- Whether a name stands in quotes: because it did when it was read, because all names do, or
because without them it would not be read as this name. -/
def quotes (id : Identifier) : Bool :=
  id.quoted || d.style.quoteAll || !Text.isPlainName id.name || d.isReserved id.name

/-- A name. -/
def writeIdentifier (id : Identifier) : String :=
  if d.quotes id then
    Quoting.writeName d.style.openingQuote d.style.closingQuote id.name
  else
    id.name

/-- A string literal. -/
def writeString (value : String) : String := Quoting.writeString d.stringEscape? value

/-- The number that digits stand for, in decimal, if it has at most a hundred and twenty-eight
bits. -/
def writeDecimal? (radix : Nat) (digits : String) : Option String :=
  ((Numeral.readNatural? radix digits.toList).filter (· < Nat.pow 2 128)).map toString

/-- A literal, or nothing if it is digits that stand for no number. -/
def writeLiteral? : Literal → Option String
  | .number text => some text
  | .string value => some (d.writeString value)
  | .boolean value => some (if value then "TRUE" else "FALSE")
  | .null => some "NULL"
  | .hex digits => writeDecimal? 16 digits
  | .bits digits => writeDecimal? 2 digits

mutual

/-- A type, in the dialect's spelling. -/
def writeType : DataType → String
  | .mk name params =>
    match writeTypeParams params with
    | [] => d.typeName name
    | texts => d.typeName name ++ "(" ++ String.intercalate ", " texts ++ ")"

/-- The parameters of a type. -/
def writeTypeParams : List (TypeParam DataType) → List String
  | [] => []
  | p :: ps => writeTypeParam p :: writeTypeParams ps

/-- A parameter of a type. -/
def writeTypeParam : TypeParam DataType → String
  | .number digits => digits
  | .text value => d.writeString value
  | .type t => writeType t

end

end Dialect

end SqlDialects
