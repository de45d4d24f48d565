import SqlDialects.Dialect.Call
import SqlDialects.Dialect.Name
import SqlDialects.Lexer
import SqlDialects.Style
import SqlDialects.Table

/-!
# Dialects

All that sets one dialect of SQL apart: its lexical rules and reserved words, the
calls that it parses or builds in its own way, the words that may follow a table,
its spelling of types, the nodes that it renders in its own way, and its style.

A dialect is assembled piece by piece and then expanded, which checks the pieces
against each other and fixes the lexer.  Until then it can render but not read.
-/

namespace SqlDialects

/-- What a word after a table makes of it. -/
inductive TableModifier where
  | final
  | paren
  deriving DecidableEq, Repr

/-- The table under a modifier. -/
def TableModifier.apply : TableModifier → Expr → Expr
  | final, table => .final table
  | paren, table => .paren table

/-- How a dialect renders nodes of a kind in a way of its own. -/
inductive Rendering where
  /-- Calls of known functions, and plain calls, under a fixed name. -/
  | renamed (name : String)
  /-- A fixed text. -/
  | fixed (text : String)
  /-- As if the dialect had no way of its own. -/
  | plain
  /-- Not at all. -/
  | unsupported
  /-- Elements behind the word `STRUCT`, with their names. -/
  | struct
  /-- Elements behind the word `tuple` as it was written, with their names. -/
  | tuple
  /-- A quantile as a call with its level in brackets of its own. -/
  | quantile
  /-- A map as a call with keys and values in turn. -/
  | map
  /-- A table before the word `FINAL`. -/
  | final
  /-- Hexadecimal and binary literals as they are read. -/
  | literal
  deriving DecidableEq, Repr

/-- A dialect of SQL. -/
structure Dialect where
  name : DialectName := .standard
  /-- The lexical rules, once there are any. -/
  rules? : Option (List LexicalRule) := none
  /-- Sets of words, by their labels. -/
  wordSets : Table String (List String) := []
  /-- The calls that are parsed in a way of their own, by name in uppercase. -/
  callSyntaxes : Table String CallSyntax := []
  /-- The plain calls that something else is built from, by name in uppercase. -/
  callBuilders : Table String CallBuilder := []
  /-- The words that may follow a table. -/
  tableModifiers : Table String TableModifier := []
  /-- The canonical names of types, by the name that this dialect reads, in uppercase. -/
  typeAliases : Table String String := []
  /-- The names that this dialect writes, by the canonical names of types. -/
  typeNames : Table String String := []
  /-- The kinds of node that are rendered in a way of their own. -/
  renderings : Table Kind Rendering := []
  style : Style := {}
  /-- The lexer, once the dialect is expanded. -/
  lexer? : Option Lexer := none
  deriving Repr

namespace Dialect

/-- The label of the words that lex as keywords. -/
def reservedLabel : String := "reserved_keywords"

/-- The words under a label. -/
def words (d : Dialect) (label : String) : List String := (d.wordSets.find? label).getD []

/-- The words under a label, in the order of their code points. -/
def sortedWords (d : Dialect) (label : String) : List String :=
  (d.words label).mergeSort fun a b => decide (a ≤ b)

/-- The words that lex as keywords. -/
def reservedWords (d : Dialect) : List String := d.words reservedLabel

/-- Whether a word is reserved, in whatever case it is written. -/
def isReserved (d : Dialect) (word : String) : Bool := d.reservedWords.contains word.toUpper

/-- Whether the dialect can read. -/
def isExpanded (d : Dialect) : Bool := d.lexer?.isSome

/-- The escape character of string literals, once the dialect is expanded. -/
def stringEscape? (d : Dialect) : Option Char := d.lexer?.bind Lexer.stringEscape?

/-- The canonical name of a type, by its name in uppercase. -/
def canonicalType (d : Dialect) (name : String) : String := (d.typeAliases.find? name).getD name

/-- The name that the dialect writes for a type. -/
def typeName (d : Dialect) (canonical : String) : String :=
  (d.typeNames.find? canonical).getD canonical

/-- Whether two dialects go by one name. -/
def sameName (d e : Dialect) : Bool := d.name == e.name

/-- A dialect in one line: what it registers, in alphabetical order where it is listed. -/
def describe (d : Dialect) : String :=
  let sorted (items : List String) := items.mergeSort fun a b => decide (a ≤ b)
  "Dialect \x7b name: " ++ d.name.title ++
    ", function_parsers: " ++ Text.quotedList (sorted d.callSyntaxes.keys) ++
    ", function_builders: " ++ toString d.callBuilders.length ++
    ", table_modifiers: " ++ toString d.tableModifiers.length ++
    ", type_names: " ++ toString d.typeNames.length ++
    ", transforms: " ++ Text.quotedList (sorted (d.renderings.keys.map Kind.name)) ++
    ", generator_config: " ++ d.style.describe ++ ", .. \x7d"

end Dialect

end SqlDialects
