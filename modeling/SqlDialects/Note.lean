import SqlDialects.Dialect.Name
import SqlDialects.Expr.Node
import SqlDialects.Style

/-!
# Notes

What happens behind an answer is recorded in notes: settings that were passed
over, dialects as they are built and registered, and the stages from one text to
another, with every place where a dialect has a way of its own.
-/

namespace SqlDialects

/-- How much a note matters. -/
inductive NoteLevel where
  | warn
  | debug
  | trace
  deriving DecidableEq, Repr

/-- The name of a level. -/
def NoteLevel.name : NoteLevel → String
  | warn => "WARN"
  | debug => "DEBUG"
  | trace => "TRACE"

/-- Something worth recording. -/
inductive Note where
  | ignoredSetting (ignored : IgnoredSetting)
  | expanded (dialect : DialectName) (callSyntaxes callBuilders renderings : Nat)
  | registered (dialect : DialectName) (replaced : Bool)
  | transpiling (source target : DialectName)
  | lexed (tokens : Nat)
  | parsed (statements : Nat)
  /-- A call was parsed in a way of the dialect's own. -/
  | ownParsing (dialect : DialectName) (call : String)
  /-- A node was rendered in a way of the dialect's own. -/
  | ownRendering (dialect : DialectName) (kind : Kind)

namespace Note

/-- How much a note matters. -/
def level : Note → NoteLevel
  | ignoredSetting _ => .warn
  | expanded .. | registered .. | transpiling .. => .debug
  | lexed _ | parsed _ | ownParsing .. | ownRendering .. => .trace

/-- The text of a note. -/
def text : Note → String
  | ignoredSetting ⟨key, value⟩ => s!"ignoring invalid value for {key}: {value.describe}"
  | expanded dialect callSyntaxes callBuilders renderings =>
    s!"expanded dialect {dialect.name}: {callSyntaxes} function parsers, " ++
      s!"{callBuilders} function builders, {renderings} transforms"
  | registered dialect replaced =>
    s!"registered dialect {dialect.name}" ++ if replaced then " (replaced)" else ""
  | transpiling source target => s!"transpiling from {source.name} to {target.name}"
  | lexed tokens => s!"lexed {tokens} tokens"
  | parsed statements => s!"parsed {statements} statements"
  | ownParsing dialect call => s!"{dialect.name} dialect overrides parsing of {call}"
  | ownRendering dialect kind => s!"{dialect.name} dialect overrides rendering of {kind.name}"

end Note

end SqlDialects
