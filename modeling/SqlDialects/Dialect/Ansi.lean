import SqlDialects.Dialect.Basic

/-!
# Standard SQL

The dialect that every other is layered over.
-/

namespace SqlDialects.Ansi

/-- A blank that ends no line. -/
def blank : CharClass := .allBut (.anyOf [.nonBlank, .range '\r' '\r', .range '\n' '\n'])

/-- A character that a word begins with. -/
def wordStart : CharClass := .anyOf [.letter, .range '_' '_']

/-- A character inside a word. -/
def wordRest : CharClass := .anyOf [.letter, .number, .range '_' '_']

/-- A mark and all that follows it on its line. -/
def toEndOfLine (mark : String) : Regex := .seq (.ofText mark.toList) (.many .anyInLine)

/-- The lexical rules.  Of two rules that take the same first character the longer comes first, so
that the first rule to react is the one that takes most. -/
def rules : List LexicalRule :=
  [⟨"whitespace", .whitespace, .regex (.oneOrMore blank)⟩,
   ⟨"inline_comment", .inlineComment, .regex (toEndOfLine "--")⟩,
   ⟨"block_comment", .blockComment, .comment⟩,
   ⟨"single_quote", .stringLiteral, .quoted '\'' '\'' none⟩,
   ⟨"double_quote", .quotedIdentifier, .quoted '"' '"' none⟩,
   ⟨"numeric_literal", .numericLiteral, .numeral⟩,
   ⟨"newline", .newline, .regex (.either (.ofText ['\r', '\n']) (.ofText ['\n']))⟩,
   ⟨"not_equal", .notEquals, .text "<>"⟩,
   ⟨"bang_not_equal", .notEquals, .text "!="⟩,
   ⟨"less_than_or_equal", .lessThanOrEqual, .text "<="⟩,
   ⟨"greater_than_or_equal", .greaterThanOrEqual, .text ">="⟩,
   ⟨"concat", .concat, .text "||"⟩,
   ⟨"equals", .equals, .text "="⟩,
   ⟨"greater_than", .greaterThan, .text ">"⟩,
   ⟨"less_than", .lessThan, .text "<"⟩,
   ⟨"dot", .dot, .text "."⟩,
   ⟨"comma", .comma, .text ","⟩,
   ⟨"plus", .plus, .text "+"⟩,
   ⟨"minus", .minus, .text "-"⟩,
   ⟨"divide", .divide, .text "/"⟩,
   ⟨"percent", .percent, .text "%"⟩,
   ⟨"star", .star, .text "*"⟩,
   ⟨"start_bracket", .startBracket, .text "("⟩,
   ⟨"end_bracket", .endBracket, .text ")"⟩,
   ⟨"semicolon", .semicolon, .text ";"⟩,
   ⟨"word", .word, .regex (.seq (.single wordStart) (.many wordRest))⟩]

/-- The words that the grammar gives a meaning to.  To be used as names they need quotes. -/
def reservedWords : List String :=
  ["ALL", "AND", "AS", "ASC", "BETWEEN", "BY", "CASE", "CROSS", "DESC", "DISTINCT", "ELSE", "END",
   "EXISTS", "FALSE", "FROM", "FULL", "GROUP", "HAVING", "IN", "INNER", "INTERSECT", "IS", "JOIN",
   "LEFT", "LIKE", "LIMIT", "NOT", "NULL", "ON", "OR", "ORDER", "OUTER", "RIGHT", "SELECT", "THEN",
   "TRUE", "UNION", "USING", "WHEN", "WHERE", "WITH"]

/-- Standard SQL before it is expanded. -/
def draft : Dialect where
  name := .ansi
  rules? := some rules
  wordSets := [(Dialect.reservedLabel, reservedWords)]
  callSyntaxes := [("CAST", .cast)]
  callBuilders :=
    [("APPROX_DISTINCT", .approxDistinct), ("ANY_VALUE", .anyValue), ("REGEXP_LIKE", .regexpLike)]

end SqlDialects.Ansi
