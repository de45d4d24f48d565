import SqlDialects.Dialect.Ansi
import SqlDialects.Dialect.Change

/-!
# BigQuery

Names in backquotes, backslash escapes in string literals, `STRUCT` with named
fields, and type names of its own.
-/

namespace SqlDialects.Bigquery

/-- Names in backquotes. -/
def backQuote : LexicalRule := ⟨"back_quote", .quotedIdentifier, .quoted '\x60' '\x60' none⟩

/-- String literals in which a backslash escapes. -/
def escapedString : LexicalRule :=
  ⟨"single_quote", .stringLiteral, .quoted '\'' '\'' (some '\\')⟩

/-- The lexical rules. -/
def rules : List LexicalRule :=
  Dialect.patch (Dialect.insertBefore Ansi.rules [backQuote] "numeric_literal") [escapedString]

/-- The canonical names of types that are read under another name. -/
def typeAliases : Table String String :=
  [("INT64", "BIGINT"), ("FLOAT64", "DOUBLE"), ("STRING", "TEXT"), ("BOOL", "BOOLEAN")]

/-- The names of types that differ from the canonical ones.  All whole numbers are one type, and
so are all floating-point numbers and all texts. -/
def typeNames : Table String String :=
  [("BIGINT", "INT64"), ("INT", "INT64"), ("SMALLINT", "INT64"), ("TINYINT", "INT64"),
   ("DOUBLE", "FLOAT64"), ("FLOAT", "FLOAT64"), ("TEXT", "STRING"), ("VARCHAR", "STRING"),
   ("BOOLEAN", "BOOL"), ("DECIMAL", "NUMERIC")]

/-- BigQuery before it is expanded. -/
def draft : Dialect :=
  { Ansi.draft with
    name := .bigquery
    rules? := some rules
    wordSets :=
      [(Dialect.reservedLabel, Ansi.reservedWords ++ ["QUALIFY", "UNNEST", "WINDOW"])]
    callSyntaxes := Ansi.draft.callSyntaxes ++ [("STRUCT", .struct)]
    typeAliases := typeAliases
    typeNames := typeNames
    renderings := [(.struct, .struct)]
    style := { openingQuote := '\x60', closingQuote := '\x60' } }

end SqlDialects.Bigquery
