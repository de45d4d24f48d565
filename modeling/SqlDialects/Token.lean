import SqlDialects.Span
import SqlDialects.Text.Word

/-!
# Tokens

The words of a SQL text, each with its kind, its text as written and the stretch
it was written in.  Blanks, line ends and comments are tokens too, as far as the
lexical rules go; they are trivia, and no one after the lexer sees them.
-/

namespace SqlDialects

/-- What a token is. -/
inductive TokenKind where
  | whitespace
  | newline
  | inlineComment
  | blockComment
  | word
  | keyword
  | quotedIdentifier
  | stringLiteral
  | numericLiteral
  | hexStringLiteral
  | bitStringLiteral
  | startBracket
  | endBracket
  | comma
  | dot
  | star
  | plus
  | minus
  | divide
  | percent
  | concat
  | equals
  | notEquals
  | lessThan
  | lessThanOrEqual
  | greaterThan
  | greaterThanOrEqual
  | semicolon
  | endOfFile
  deriving DecidableEq, Repr

namespace TokenKind

/-- Every kind. -/
def all : List TokenKind :=
  [.whitespace, .newline, .inlineComment, .blockComment, .word, .keyword, .quotedIdentifier,
   .stringLiteral, .numericLiteral, .hexStringLiteral, .bitStringLiteral, .startBracket,
   .endBracket, .comma, .dot, .star, .plus, .minus, .divide, .percent, .concat, .equals,
   .notEquals, .lessThan, .lessThanOrEqual, .greaterThan, .greaterThanOrEqual, .semicolon,
   .endOfFile]

/-- The name of a kind. -/
def name : TokenKind → String
  | whitespace => "whitespace"
  | newline => "newline"
  | inlineComment => "inline_comment"
  | blockComment => "block_comment"
  | word => "word"
  | keyword => "keyword"
  | quotedIdentifier => "quoted_identifier"
  | stringLiteral => "string_literal"
  | numericLiteral => "numeric_literal"
  | hexStringLiteral => "hex_string_literal"
  | bitStringLiteral => "bit_string_literal"
  | startBracket => "start_bracket"
  | endBracket => "end_bracket"
  | comma => "comma"
  | dot => "dot"
  | star => "star"
  | plus => "plus"
  | minus => "minus"
  | divide => "divide"
  | percent => "percent"
  | concat => "concat"
  | equals => "equals"
  | notEquals => "not_equals"
  | lessThan => "less_than"
  | lessThanOrEqual => "less_than_or_equal"
  | greaterThan => "greater_than"
  | greaterThanOrEqual => "greater_than_or_equal"
  | semicolon => "semicolon"
  | endOfFile => "end_of_file"

/-- The kind of the given name. -/
def ofName? (name : String) : Option TokenKind := all.find? (·.name == name)

/-- Kinds that the lexer keeps to itself. -/
def isTrivia : TokenKind → Bool
  | whitespace | newline | inlineComment | blockComment => true
  | _ => false

end TokenKind

/-- A token. -/
structure Token where
  kind : TokenKind
  text : String
  span : Span := {}
  deriving DecidableEq, Repr

namespace Token

/-- The token that ends every sequence. -/
def endOfFile (span : Span) : Token := ⟨.endOfFile, "", span⟩

/-- Whether a token is the keyword `word`, in whatever case it was written. -/
def isKeyword (t : Token) (word : String) : Bool :=
  t.kind == .keyword && Text.sameIgnoringCase t.text word

/-- The name under which a dialect registers what it does about a word. -/
def key (t : Token) : String := t.text.toUpper

/-- A token as messages speak of it. -/
def describe (t : Token) : String :=
  match t.kind with
  | .endOfFile => "end of input"
  | _ => "'" ++ t.text ++ "'"

end Token

end SqlDialects
