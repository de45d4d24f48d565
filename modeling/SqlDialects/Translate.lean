import SqlDialects.Grammar.Expression
import SqlDialects.Render.Node

/-!
# From text to text

The whole way: a text to tokens, tokens to statements, statements to texts, and
all of it from one dialect to another.
-/

namespace SqlDialects

/-- What can go wrong between one text and another. -/
inductive SqlError where
  /-- The text is not made of tokens. -/
  | lex (e : LexError)
  /-- The tokens make no statements. -/
  | parse (e : ParseError)
  /-- The dialect cannot write a node. -/
  | unsupported (u : Unsupported)
  /-- No dialect goes by this name. -/
  | unknownDialect (name : String)
  /-- The library is used wrongly. -/
  | fault (f : Fault)

namespace SqlError

/-- What went wrong, if there is something to say about it. -/
def message? : SqlError → Option String
  | lex e => some e.message
  | parse e => some e.message
  | unsupported u => some u.message
  | unknownDialect name => some ("Unknown dialect: " ++ name)
  | fault f => f.message?

end SqlError

/-- What a parser makes of some tokens. -/
def Parser.run {α : Type} (p : Parser α) (tokens : List Token) : Traced SqlError α :=
  match p (Cursor.ofTokens tokens) with
  | .ok a c => ⟨c.notes, .ok a⟩
  | .error (.rejected e) c => ⟨c.notes, .error (.parse e)⟩
  | .error (.fault f) c => ⟨c.notes, .error (.fault f)⟩

namespace Dialect

variable (d : Dialect)

/-- The tokens of a text. -/
def lex (text : String) : Traced SqlError (List Token) :=
  match d.lexer? with
  | none => .fail (.fault (.notExpanded d.name))
  | some lexer =>
    match lexer.lex text with
    | .error e => .fail (.lex e)
    | .ok tokens => do
      Traced.note (.lexed tokens.length)
      return tokens

/-- All statements of a text. -/
def parse (text : String) : Traced SqlError (List Expr) := do
  Parser.run (Grammar.statements d) (← d.lex text)

/-- The statement of a text that holds exactly one. -/
def parseOne (text : String) : Traced SqlError Expr := do
  Parser.run (Grammar.onlyStatement d) (← d.lex text)

/-- The text of an expression. -/
def write (e : Expr) : Traced SqlError String := (d.render e).mapError .unsupported

end Dialect

/-- The statements of a text in one dialect, as another writes them. -/
def translate (source target : Dialect) (text : String) : Traced SqlError (List String) := do
  Traced.note (.transpiling source.name target.name)
  let statements ← source.parse text
  Traced.all (statements.map target.write)

end SqlDialects
