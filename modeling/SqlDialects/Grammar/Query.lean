import SqlDialects.Grammar.Call

/-!
# Queries

`SELECT` and its clauses, each of which may be missing, in the one order in which
they are written.
-/

namespace SqlDialects.Grammar

variable (d : Dialect) (nested : Nat → Parser Expr)

/-- An expression in the list of a `SELECT`, with a name if there is one. -/
def projection : Parser Expr := do
  let e ← nested 0
  return bind e (← binding true)

/-- A sort key. -/
def sortKey : Parser (Ordered Expr) := do
  let this ← nested 0
  if ← Parser.consumeKeyword "ASC" then return ⟨this, some .asc⟩
  if ← Parser.consumeKeyword "DESC" then return ⟨this, some .desc⟩
  return ⟨this, none⟩

/-- A word that changes the table before it. -/
def tableModifier? : Parser (Option TableModifier) := do
  let token ← Parser.peek
  if token.kind == .keyword then
    match d.tableModifiers.find? token.key with
    | some modifier =>
      discard Parser.advance
      return some modifier
    | none => return none
  else
    return none

/-- A table by name or a query in brackets, with a name if there is one, and under the modifiers
that follow; `query` parses the query. -/
def table (query : Parser (Query Expr)) : Parser Expr := do
  let opens ← Parser.check .startBracket
  let this ←
    if opens && (← Parser.peekAhead 1).isKeyword "SELECT" then do
      discard Parser.advance
      let inner ← query
      discard Parser.expectEndBracket
      pure (Expr.subquery inner)
    else
      column
  let named := bind this (← binding true)
  let modifiers ← Parser.many (tableModifier? d)
  return modifiers.foldl (fun e m => m.apply e) named

/-- What follows a keyword, if the keyword is there. -/
def clause {α : Type} (word : String) (rest : Parser α) : Parser (Option α) := do
  if ← Parser.consumeKeyword word then return some (← rest) else return none

/-- What follows a keyword and `BY`, if the keyword is there. -/
def clauseBy {α : Type} (word : String) (item : Parser α) : Parser (List α) := do
  if ← Parser.consumeKeyword word then
    discard (Parser.expectKeyword "BY")
    Parser.csv item
  else
    return []

/-- A query, given how to parse one in brackets. -/
def queryLayer (inner : Parser (Query Expr)) : Parser (Query Expr) := do
  discard (Parser.expectKeyword "SELECT")
  let distinct ← Parser.consumeKeyword "DISTINCT"
  let projections ← Parser.csv (projection nested)
  let source ← clause "FROM" (table d inner)
  let filter ← clause "WHERE" (nested 0)
  let groupBy ← clauseBy "GROUP" (nested 0)
  let having ← clause "HAVING" (nested 0)
  let orderBy ← clauseBy "ORDER" (sortKey nested)
  let limit ← clause "LIMIT" (nested 0)
  return { distinct, projections, source, filter, groupBy, having, orderBy, limit }

/-- A query. -/
def query (c : Cursor) : Parsed (Query Expr) :=
  queryLayer d nested (Parser.descend c fun inner _ => query inner) c
termination_by c.remaining

end SqlDialects.Grammar
