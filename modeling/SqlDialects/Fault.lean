import SqlDialects.Dialect.Name
import SqlDialects.Text.Escaped

/-!
# Faults

What can be wrong with a use of the library, as opposed to a text or a tree that
a dialect does not know.  A definition of a dialect can be inconsistent, a dialect
can be used before it is complete, and a token that claims to be a literal can be
too short to be one.
-/

namespace SqlDialects

/-- A wrong use of the library. -/
inductive Fault where
  /-- A dialect was used for reading before it was expanded. -/
  | notExpanded (dialect : DialectName)
  /-- A dialect was expanded without lexical rules. -/
  | noRules (dialect : DialectName)
  /-- Lexical rules were to be changed where there are none. -/
  | noRulesToChange
  /-- Lexical rules were to go before a rule that there is not. -/
  | noRuleNamed (before : String)
  /-- A call syntax was to be replaced that there is not. -/
  | noCallSyntax (key : String)
  /-- A table modifier is no reserved word. -/
  | modifierNotReserved (dialect : DialectName) (word : String)
  /-- The key of a call is no plain name in uppercase. -/
  | keyNotPlain (dialect : DialectName) (key : String)
  /-- The key of a call is a reserved word. -/
  | keyReserved (dialect : DialectName) (key : String)
  /-- An escape character was given to a rule for something else than quoted literals. -/
  | escapeOutsideQuotes
  /-- An error was expected to match a pattern and does not. -/
  | patternNotFound (pattern description : String)
  /-- A pattern is no regular expression. -/
  | unreadablePattern
  /-- A token is too short for the literal that it claims to be. -/
  | brokenLiteral
  /-- The grammar went round without taking a token. -/
  | stalled
  deriving DecidableEq, Repr

namespace Fault

/-- What is said about a fault, if it has a text of its own. -/
def message? : Fault → Option String
  | notExpanded dialect => some s!"Dialect {dialect.title} has not been expanded"
  | noRules dialect => some s!"Lexing struct has not been set for dialect {dialect.title}"
  | noRulesToChange => some "Lexer struct must be defined before it can be patched!"
  | noRuleNamed before =>
    some ("Lexer struct insert before '" ++ before ++ "' failed because tag never found.")
  | noCallSyntax key =>
    some s!"Failed to replace function parser {key}: it was never registered"
  | modifierNotReserved dialect word =>
    some (s!"Dialect {dialect.title} registers table modifier '" ++ word ++
      "' which is not a reserved keyword.")
  | keyNotPlain dialect key =>
    some (s!"Dialect {dialect.title} registers '" ++ key ++
      "' which is not an uppercase construct identifier.")
  | keyReserved dialect key =>
    some (s!"Dialect {dialect.title} registers '" ++ key ++
      "' which collides with a reserved keyword of the base grammar.")
  | escapeOutsideQuotes => some "Only quoted matchers accept an escape character."
  | patternNotFound pattern description =>
    some ("Regex pattern did not match.\nRegex: " ++ Text.quoted pattern ++ "\nInput: " ++
      Text.quoted description ++
      if pattern = description then "\nDid you mean to escape the regex?" else "")
  | unreadablePattern | brokenLiteral | stalled => none

end Fault

end SqlDialects
