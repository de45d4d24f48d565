import SqlDialects.Dialect.Call
import SqlDialects.Fault
import SqlDialects.Regex.Read
import SqlDialects.Regex.Search
import SqlDialects.Token

/-!
# Errors of the grammar

Tokens that make no statement are rejected at one of them, for one of two
reasons: something else was expected there, or the arguments of a call do not fit
its function.
-/

namespace SqlDialects

/-- Why tokens are rejected. -/
inductive ParseError.Cause where
  /-- One of these was expected. -/
  | unexpected (expected : List String)
  /-- The arguments of the call do not fit. -/
  | invalidCall (reason : ArgumentError)
  deriving DecidableEq, Repr

/-- A rejection, and the token that it is about. -/
structure ParseError where
  cause : ParseError.Cause
  token : Token
  deriving DecidableEq, Repr

namespace ParseError

/-- What would have been accepted. -/
def expected (e : ParseError) : List String :=
  match e.cause with
  | .unexpected expected => expected
  | .invalidCall _ => []

/-- What is wrong. -/
def description (e : ParseError) : String :=
  match e.cause with
  | .unexpected [single] => "Expected " ++ single ++ " but found " ++ e.token.describe
  | .unexpected expected =>
    "Expected one of [" ++ String.intercalate ", " expected ++ "] but found " ++ e.token.describe
  | .invalidCall reason => "Invalid call to " ++ e.token.text ++ ": " ++ reason.message

/-- What is wrong, and where. -/
def message (e : ParseError) : String := e.description ++ " at " ++ e.token.span.describe

/-- Holds that the description of an error matches a regular expression somewhere. -/
def expectMatch (e : ParseError) (pattern : String) : Except Fault Unit :=
  match Regex.read? pattern with
  | none => .error .unreadablePattern
  | some r =>
    if r.OccursIn e.description.toList then .ok ()
    else .error (.patternNotFound pattern e.description)

end ParseError

end SqlDialects
