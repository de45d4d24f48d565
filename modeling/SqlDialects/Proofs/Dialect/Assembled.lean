import SqlDialects.Registry

/-!
# What a built-in dialect comes to

A built-in dialect is a draft that is configured and then expanded, and both
steps are computations which may be stopped.  Neither ever is.  Expanding checks
the keys of the draft, which pass, and configuring touches nothing that the check
looks at; so whatever is asked for, the dialect is its draft with a lexer, and
with two choices of style (`makes_builtin`).

Everything that is proved about reading and writing is proved about
`DialectName.assembled`, where the two choices are variables; `n.Makes d` says that
`d` is such a dialect.  A configuration is then one more pair of values for them,
and no proof ever looks into one.
-/

namespace SqlDialects

/-- What a table binds is one of its entries. -/
theorem Table.mem_of_find?_eq_some {κ α : Type} [DecidableEq κ] {t : Table κ α} {k : κ} {a : α}
    (h : t.find? k = some a) : (k, a) ∈ t := by
  induction t with
  | nil => cases h
  | cons e t ih =>
    obtain ⟨l, b⟩ := e
    unfold Table.find? at h
    split at h
    · subst_vars
      cases h
      exact List.mem_cons_self
    · exact List.mem_cons_of_mem _ (ih h)

theorem Table.find?_of_binds_eq_false {κ α : Type} [DecidableEq κ] {t : Table κ α} {k : κ}
    (h : t.binds k = false) : t.find? k = none :=
  Option.not_isSome_iff_eq_none.1 (Bool.eq_false_iff.1 h)

namespace DialectName

/-- The lexical rules of a built-in dialect. -/
def rules : DialectName → List LexicalRule
  | ansi => Ansi.rules
  | bigquery => Bigquery.rules
  | clickhouse => Clickhouse.rules

/-- The lexer of a built-in dialect. -/
def lexer (n : DialectName) : Lexer := ⟨n.rules, n.draft.reservedWords⟩

/-- A built-in dialect, ready to read, with the two choices that a configuration has. -/
def assembled (n : DialectName) (quoteAll : Bool) (callCase : CallCase) : Dialect :=
  { n.draft with
    style := { n.draft.style with quoteAll, callCase }
    lexer? := some n.lexer }

/-- The words that may follow a table are reserved. -/
theorem modifierFault?_draft (n : DialectName) : n.draft.modifierFault? = none := by
  cases n <;> rfl

/-- The keys of calls are plain names in uppercase, and not reserved. -/
theorem keysFault?_draft (n : DialectName) : n.draft.keysFault? = none := by
  cases n <;> decide +kernel

/-- Expanding a draft is never stopped, whatever its style. -/
theorem expand_draft (n : DialectName) (style : Style) :
    ({ n.draft with style := style } : Dialect).expand.dialect =
      { n.draft with style := style, lexer? := some n.lexer } := by
  have hmodifiers : ({ n.draft with style := style } : Dialect).modifierFault? = none :=
    n.modifierFault?_draft
  have hkeys : ({ n.draft with style := style } : Dialect).keysFault? = none :=
    n.keysFault?_draft
  unfold Dialect.expand
  rw [hmodifiers, hkeys]
  cases n <;> rfl

end DialectName

/-- A configuration settles whether names are quoted and how calls are cased, and nothing else. -/
theorem Style.exists_configure_eq (style : Style) (config : Setting) :
    ∃ quoteAll callCase,
      (style.configure config).1 = { style with quoteAll := quoteAll, callCase := callCase } := by
  have hquoting : ∃ q, (style.configureQuoting config).1 = { style with quoteAll := q } := by
    unfold configureQuoting
    split
    · exact ⟨style.quoteAll, rfl⟩
    · split
      · exact ⟨_, rfl⟩
      · exact ⟨style.quoteAll, rfl⟩
  obtain ⟨quoteAll, hq⟩ := hquoting
  have hcase : ∃ k, ((style.configureQuoting config).1.configureCallCase config).1 =
      { style with quoteAll := quoteAll, callCase := k } := by
    rw [hq]
    unfold configureCallCase
    split
    · exact ⟨style.callCase, rfl⟩
    · split
      · exact ⟨_, rfl⟩
      · exact ⟨style.callCase, rfl⟩
  obtain ⟨callCase, hk⟩ := hcase
  exact ⟨quoteAll, callCase, hk⟩

namespace DialectName

/-- `d` is the built-in dialect `n`, with whatever choices of style. -/
def Makes (n : DialectName) (d : Dialect) : Prop :=
  ∃ quoteAll callCase, d = n.assembled quoteAll callCase

/-- **A built-in dialect is its draft, assembled**: no configuration stops it, and none changes
anything but the two choices of style. -/
theorem makes_builtin (n : DialectName) (config? : Option Setting) :
    n.Makes (Dialect.builtin n config?) := by
  cases config? with
  | none => exact ⟨_, _, n.expand_draft n.draft.style⟩
  | some config =>
    obtain ⟨quoteAll, callCase, h⟩ := n.draft.style.exists_configure_eq config
    refine ⟨quoteAll, callCase, ?_⟩
    show ({ n.draft with style := (n.draft.style.configure config).1 } : Dialect).expand.dialect = _
    rw [n.expand_draft, h]
    rfl

/-! ## What the two choices leave alone -/

namespace Makes

variable {n : DialectName} {d : Dialect}

theorem name (h : n.Makes d) : d.name = n := by
  obtain ⟨_, _, rfl⟩ := h
  exact Dialect.name_draft n

theorem lexer? (h : n.Makes d) : d.lexer? = some n.lexer := by
  obtain ⟨_, _, rfl⟩ := h
  rfl

theorem callSyntaxes (h : n.Makes d) : d.callSyntaxes = n.draft.callSyntaxes := by
  obtain ⟨_, _, rfl⟩ := h
  rfl

theorem callBuilders (h : n.Makes d) : d.callBuilders = n.draft.callBuilders := by
  obtain ⟨_, _, rfl⟩ := h
  rfl

theorem tableModifiers (h : n.Makes d) : d.tableModifiers = n.draft.tableModifiers := by
  obtain ⟨_, _, rfl⟩ := h
  rfl

theorem typeAliases (h : n.Makes d) : d.typeAliases = n.draft.typeAliases := by
  obtain ⟨_, _, rfl⟩ := h
  rfl

theorem typeNames (h : n.Makes d) : d.typeNames = n.draft.typeNames := by
  obtain ⟨_, _, rfl⟩ := h
  rfl

theorem renderings (h : n.Makes d) : d.renderings = n.draft.renderings := by
  obtain ⟨_, _, rfl⟩ := h
  rfl

/-- What is reserved for the dialect is a keyword for its lexer. -/
theorem isReserved (h : n.Makes d) (word : String) :
    d.isReserved word = n.lexer.isReserved word := by
  obtain ⟨_, _, rfl⟩ := h
  rfl

theorem stringEscape? (h : n.Makes d) : d.stringEscape? = n.lexer.stringEscape? := by
  obtain ⟨_, _, rfl⟩ := h
  rfl

theorem openingQuote (h : n.Makes d) : d.style.openingQuote = n.draft.style.closingQuote := by
  obtain ⟨_, _, rfl⟩ := h
  cases n <;> rfl

theorem closingQuote (h : n.Makes d) : d.style.closingQuote = n.draft.style.closingQuote := by
  obtain ⟨_, _, rfl⟩ := h
  rfl

end Makes

end DialectName

end SqlDialects
