import SqlDialects.Dialect.Clickhouse
import SqlDialects.Translate

/-!
# Built-in dialects and registries

Each built-in dialect goes by its own name, with the style that a configuration
asks for, and is expanded.

A registry holds the dialects that a program works with, at most one under each
name.  A dialect that is registered is expanded, and stays in the place where its
name was first registered.
-/

namespace SqlDialects

/-! ## Built-in dialects -/

/-- A dialect before it is expanded. -/
def DialectName.draft : DialectName → Dialect
  | ansi => Ansi.draft
  | bigquery => Bigquery.draft
  | clickhouse => Clickhouse.draft

namespace Dialect

/-- Configures and expands a built-in dialect, with the notes that this leaves. -/
def build (name : DialectName) (config? : Option Setting) : Attempt :=
  match config? with
  | none => name.draft.expand
  | some config => (name.draft.configure config).andThen expand

/-- A built-in dialect with a configuration. -/
def builtin (name : DialectName) (config? : Option Setting) : Dialect :=
  (build name config?).dialect

@[simp] theorem name_draft (name : DialectName) : name.draft.name = name := by
  cases name <;> rfl

end Dialect

/-! ## Registries -/

/-- Dialects by name, in the order in which the names were registered. -/
abbrev Registry := Table DialectName Dialect

namespace Registry

/-- Adds a dialect under its own name, expanding it first if it is not.  Tells which dialect it
took the place of. -/
def register (r : Registry) (d : Dialect) : Traced Fault (Registry × Option Dialect) := do
  let d ← (if d.isExpanded then Attempt.done d else d.expand).traced
  let previous := r.find? d.name
  Traced.note (.registered d.name previous.isSome)
  return (r.insert d.name d, previous)

/-- Adds a built-in dialect with a configuration. -/
def registerBuiltin (config? : Option Setting) (r : Registry) (name : DialectName) :
    Traced Fault Registry := do
  let d ← (Dialect.build name config?).traced
  let (r, _) ← r.register d
  return r

/-- Every built-in dialect with a configuration. -/
def builtin (config? : Option Setting) : Traced Fault Registry :=
  DialectName.all.foldlM (registerBuiltin config?) []

/-- The dialect of a name, in whatever case it is written. -/
def ofName (r : Registry) (name : String) : Except SqlError Dialect :=
  match (DialectName.ofName? name).bind r.find? with
  | some d => .ok d
  | none => .error (.unknownDialect name)

end Registry

end SqlDialects
