import SqlDialects.Dialect.Bigquery

/-!
# ClickHouse

Comments behind a hash, hexadecimal and binary literals, tuples with named
elements, parametric quantiles, maps, tables read with `FINAL`, and type names
that are sensitive to case.  Function names are sensitive to case too, so they
are written as they were read.
-/

namespace SqlDialects.Clickhouse

/-- A hexadecimal digit. -/
def hexDigit : CharClass := .anyOf [.range '0' '9', .range 'a' 'f', .range 'A' 'F']

/-- A binary digit. -/
def bit : CharClass := .anyOf [.range '0' '1']

/-- Hexadecimal digits behind `0x`. -/
def hexLiteral : Regex :=
  .seq (.single (.only '0')) (.seq (.single (.anyOf [.range 'x' 'x', .range 'X' 'X']))
    (.oneOrMore hexDigit))

/-- Binary digits behind `0b`. -/
def bitLiteral : Regex := .seq (.ofText ['0', 'b']) (.oneOrMore bit)

/-- The lexical rules that standard SQL does not have. -/
def ownRules : List LexicalRule :=
  [⟨"hash_comment", .inlineComment, .regex (Ansi.toEndOfLine "#")⟩,
   Bigquery.backQuote,
   ⟨"hex_literal", .hexStringLiteral, .regex hexLiteral⟩,
   ⟨"bit_literal", .bitStringLiteral, .regex bitLiteral⟩]

/-- The lexical rules.  The literals with a letter behind their zero go before the numerals, which
would refuse them. -/
def rules : List LexicalRule :=
  Dialect.patch (Dialect.insertBefore Ansi.rules ownRules "numeric_literal")
    [Bigquery.escapedString]

/-- The canonical names of types that are read under another name. -/
def typeAliases : Table String String :=
  [("FLOAT32", "FLOAT"), ("FLOAT64", "DOUBLE"), ("INT8", "TINYINT"), ("INT16", "SMALLINT"),
   ("INT32", "INT"), ("INT64", "BIGINT"), ("UINT8", "UTINYINT"), ("UINT16", "USMALLINT"),
   ("UINT32", "UINT"), ("UINT64", "UBIGINT"), ("TUPLE", "STRUCT"), ("STRING", "TEXT")]

/-- The names of types, by their canonical names. -/
def typeNames : Table String String :=
  [("ARRAY", "Array"), ("BIGINT", "Int64"), ("DATE", "Date"), ("DATETIME", "DateTime"),
   ("DATETIME64", "DateTime64"), ("DOUBLE", "Float64"), ("FIXEDSTRING", "FixedString"),
   ("FLOAT", "Float32"), ("INT", "Int32"), ("INT128", "Int128"), ("INT256", "Int256"),
   ("LOWCARDINALITY", "LowCardinality"), ("MAP", "Map"), ("NULLABLE", "Nullable"),
   ("SMALLINT", "Int16"), ("STRUCT", "Tuple"), ("TEXT", "String"), ("TINYINT", "Int8"),
   ("UBIGINT", "UInt64"), ("UINT", "UInt32"), ("UINT128", "UInt128"), ("UINT256", "UInt256"),
   ("USMALLINT", "UInt16"), ("UTINYINT", "UInt8"), ("UUID", "UUID")]

/-- The kinds of node that are rendered in a way of their own. -/
def renderings : Table Kind Rendering :=
  [(.struct, .tuple), (.quantile, .quantile), (.approxDistinct, .renamed "uniq"),
   (.anyValue, .renamed "any"), (.regexpLike, .renamed "match"), (.varMap, .map),
   (.final, .final), (.literal, .literal)]

/-- ClickHouse before it is expanded. -/
def draft : Dialect :=
  { Ansi.draft with
    name := .clickhouse
    rules? := some rules
    wordSets := [(Dialect.reservedLabel, Ansi.reservedWords ++ ["FINAL"])]
    callSyntaxes := Ansi.draft.callSyntaxes ++ [("TUPLE", .struct), ("QUANTILE", .quantile)]
    callBuilders :=
      Ansi.draft.callBuilders ++
        [("UNIQ", .approxDistinct), ("ANY", .anyValue), ("MATCH", .regexpLike), ("MAP", .varMap)]
    tableModifiers := [("FINAL", .final)]
    typeAliases := typeAliases
    typeNames := typeNames
    renderings := renderings
    style := { callCase := .asWritten } }

end SqlDialects.Clickhouse
