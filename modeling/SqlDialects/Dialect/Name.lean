import SqlDialects.Text.Word

/-!
# The dialects by name

Dialects are told apart by name alone: a registry holds at most one of each name,
and two dialects of one name count as the same, however they were assembled.  A
name is recognised in whatever case it is written.
-/

namespace SqlDialects

/-- The dialects that there are. -/
inductive DialectName where
  | ansi
  | bigquery
  | clickhouse
  deriving DecidableEq, Repr

namespace DialectName

/-- Every dialect, in alphabetical order. -/
def all : List DialectName := [.ansi, .bigquery, .clickhouse]

/-- The dialect that is meant where none is named. -/
def standard : DialectName := .ansi

/-- The name of a dialect, as one writes it. -/
def name : DialectName → String
  | ansi => "ansi"
  | bigquery => "bigquery"
  | clickhouse => "clickhouse"

/-- The name of a dialect, as messages about its definition write it. -/
def title : DialectName → String
  | ansi => "Ansi"
  | bigquery => "Bigquery"
  | clickhouse => "Clickhouse"

/-- The dialect of a name, in whatever case it is written. -/
def ofName? (name : String) : Option DialectName :=
  all.find? fun d => Text.sameIgnoringCase d.name name

end DialectName

end SqlDialects
