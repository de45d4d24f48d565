import SqlDialects.Proofs.Dialect.Assembled
import SqlDialects.Proofs.Lexing.Casing

/-!
# Expanded dialects are consistent

The parts of a dialect bear on each other.  A call with a meaning of its own is found
only under a name that lexes as a word, so its key may not be reserved; a word after
a table is found only if it is a keyword; and the lexer was made of the rules and the
words of some moment.  Expanding checks all of this and makes the lexer, but later
changes touch the parts again, in any order.  `Consistent` says what there is to
check, and `consistent_of_changes` that an expanded dialect never fails it, whatever
it went through.

The argument needs no account of what each change does.  A change either ends with
`refresh`, and then the dialect was checked just now, if it is expanded at all; or it
binds no key that was not bound before and leaves the rules, the words and the lexer
alone, and then nothing that was checked can have become false.
-/

namespace SqlDialects

namespace Table

variable {κ α : Type} [DecidableEq κ] {t : Table κ α} {k k' : κ}

theorem binds_of_binds_insert {a : α}
    (hk : t.binds k = true) (h : (t.insert k a).binds k' = true) : t.binds k' = true := by
  unfold binds at hk h ⊢
  rw [find?_insert] at h
  split at h
  · subst_vars
    exact hk
  · exact h

theorem binds_of_binds_erase (h : (t.erase k).binds k' = true) : t.binds k' = true := by
  unfold binds at h ⊢
  rw [find?_erase] at h
  split at h
  · cases h
  · exact h

end Table

namespace Dialect

variable {d : Dialect}

/-- A key under which a call is found: a plain name without lowercase letters which is not
reserved. -/
structure IsFreeKey (d : Dialect) (key : String) : Prop where
  isPlainName : Text.isPlainName key = true
  noLower : ∀ c ∈ key.toList, c.isLower = false
  notReserved : d.isReserved key = false

/-- The parts of a dialect fit each other, and the lexer is the one that they make now. -/
structure Consistent (d : Dialect) : Prop where
  lexer : ∃ rules, d.rules? = some rules ∧ d.lexer? = some ⟨rules, d.reservedWords⟩ ∧
    d.stringEscape? = (rules.filter (·.kind == .stringLiteral)).findSome? LexicalRule.escape?
  keys : ∀ key, d.callSyntaxes.binds key = true ∨ d.callBuilders.binds key = true →
    d.IsFreeKey key
  modifiers : ∀ word, d.tableModifiers.binds word = true → word ∈ d.reservedWords

/-! ## What the checks find -/

theorem modifierFault?_eq_none_iff :
    d.modifierFault? = none ↔ ∀ word, d.tableModifiers.binds word = true →
      word ∈ d.reservedWords := by
  unfold modifierFault?
  rw [List.findSome?_eq_none_iff]
  constructor
  · intro h word hword
    have hnone := h word ((Table.mem_keys_iff _ _).2 hword)
    simpa using hnone
  · intro h word hword
    have hmem := h word ((Table.mem_keys_iff _ _).1 hword)
    simp [hmem]

theorem keyFault?_eq_none_iff {key : String} :
    d.keyFault? key = none ↔ Text.isPlainName key = true ∧ key.toUpper = key ∧
      key ∉ d.reservedWords := by
  unfold keyFault?
  by_cases hplain : Text.isPlainName key = true
  · by_cases hupper : key.toUpper = key
    · simp [hplain, hupper]
    · simp [hplain, hupper]
  · simp [hplain]

/-- A key that passes the check is free. -/
theorem isFreeKey_of_keyFault? {key : String} (h : d.keyFault? key = none) : d.IsFreeKey key := by
  obtain ⟨hplain, hupper, hreserved⟩ := keyFault?_eq_none_iff.1 h
  refine ⟨hplain, Text.not_isLower_of_mem hupper, ?_⟩
  unfold isReserved
  rw [hupper]
  simpa using hreserved

theorem isFreeKey_of_keysFault? (h : d.keysFault? = none) {key : String}
    (hkey : d.callSyntaxes.binds key = true ∨ d.callBuilders.binds key = true) :
    d.IsFreeKey key := by
  unfold keysFault? at h
  rw [List.findSome?_eq_none_iff] at h
  refine isFreeKey_of_keyFault? (h key (List.mem_append.2 ?_))
  exact hkey.imp (Table.mem_keys_iff _ _).2 (Table.mem_keys_iff _ _).2

/-- A dialect that passes the checks is consistent with a lexer of its rules and words. -/
theorem consistent_of_checks {rules : List LexicalRule} (hrules : d.rules? = some rules)
    (hmodifiers : d.modifierFault? = none) (hkeys : d.keysFault? = none) :
    ({ d with lexer? := some ⟨rules, d.reservedWords⟩ } : Dialect).Consistent where
  lexer := ⟨rules, hrules, rfl, rfl⟩
  keys _ hkey :=
    have hfree := isFreeKey_of_keysFault? hkeys hkey
    ⟨hfree.isPlainName, hfree.noLower, hfree.notReserved⟩
  modifiers := modifierFault?_eq_none_iff.1 hmodifiers

/-! ## One change -/

/-- If the dialect is expanded, it is consistent. -/
def Valid (d : Dialect) : Prop := d.isExpanded = true → d.Consistent

/-- Expanding that is not stopped found nothing wrong, and makes the lexer. -/
theorem expand_inv (h : d.expand.fault? = none) :
    d.modifierFault? = none ∧ d.keysFault? = none ∧ ∃ rules, d.rules? = some rules ∧
      d.expand.dialect = { d with lexer? := some ⟨rules, d.reservedWords⟩ } := by
  unfold expand at h ⊢
  split at h
  · cases h
  · rename_i hfault
    split at h
    · cases h
    · rename_i rules hrules
      exact ⟨(Option.or_eq_none_iff.1 hfault).1, (Option.or_eq_none_iff.1 hfault).2, rules,
        hrules, rfl⟩

/-- Expanding, unless it is stopped, leaves a consistent dialect. -/
theorem consistent_expand (h : d.expand.fault? = none) : d.expand.dialect.Consistent := by
  obtain ⟨hmodifiers, hkeys, rules, hrules, hexpand⟩ := expand_inv h
  rw [hexpand]
  exact consistent_of_checks hrules hmodifiers hkeys

/-- What is refreshed has been checked just now, if it is expanded. -/
theorem valid_refresh (h : d.refresh.fault? = none) : d.refresh.dialect.Valid := by
  unfold refresh at h ⊢
  split at h
  · rename_i hexpanded
    rw [if_pos hexpanded]
    exact fun _ => consistent_expand h
  · rename_i hexpanded
    rw [if_neg hexpanded]
    exact fun hdone => absurd hdone hexpanded

/-- A change that leaves rules, words, lexer and modifiers alone and binds no key that was not bound
leaves a dialect consistent. -/
theorem Consistent.of_unchanged {d' : Dialect} (h : d.Consistent) (hrules : d'.rules? = d.rules?)
    (hwords : d'.wordSets = d.wordSets) (hlexer : d'.lexer? = d.lexer?)
    (hmodifiers : d'.tableModifiers = d.tableModifiers)
    (hkeys : ∀ key, d'.callSyntaxes.binds key = true ∨ d'.callBuilders.binds key = true →
      d.callSyntaxes.binds key = true ∨ d.callBuilders.binds key = true) : d'.Consistent := by
  have hreserved : d'.reservedWords = d.reservedWords := by
    unfold reservedWords words
    rw [hwords]
  refine ⟨?_, fun key hkey => ?_, fun word hword => ?_⟩
  · rw [hrules, hlexer, hreserved, stringEscape?, hlexer]
    exact h.lexer
  · have hfree := h.keys key (hkeys key hkey)
    refine ⟨hfree.isPlainName, hfree.noLower, ?_⟩
    rw [isReserved, hreserved]
    exact hfree.notReserved
  · rw [hreserved]
    exact h.modifiers word (hmodifiers ▸ hword)

/-- **A change that is not stopped keeps a dialect valid.** -/
theorem valid_change (hd : d.Valid) {c : Change} (h : (d.change c).fault? = none) :
    (d.change c).dialect.Valid := by
  cases c with
  | setRules | addWords | removeWords | addCallSyntaxes | addCallBuilders | addTableModifiers =>
    exact valid_refresh h
  | insertRules more before =>
    simp only [change, insertRules] at h ⊢
    split at h
    · cases h
    · split at h
      · rename_i hfound
        rw [if_pos hfound]
        exact valid_refresh h
      · cases h
  | patchRules others =>
    simp only [change, patchRules] at h ⊢
    split at h
    · cases h
    · exact valid_refresh h
  | replaceCallSyntax key callSyntax =>
    simp only [change] at h ⊢
    split at h
    · rename_i hbound
      rw [if_pos hbound]
      exact fun hexpanded => (hd hexpanded).of_unchanged rfl rfl rfl rfl fun _ =>
        Or.imp_left (Table.binds_of_binds_insert hbound)
    · cases h
  | removeCallSyntax key =>
    exact fun hexpanded => (hd hexpanded).of_unchanged rfl rfl rfl rfl fun _ =>
      Or.imp_left Table.binds_of_binds_erase
  | addTypeAliases | addTypeNames | addRenderings | removeRendering =>
    exact fun hexpanded => (hd hexpanded).of_unchanged rfl rfl rfl rfl fun _ => id
  | expand => exact fun _ => consistent_expand h

/-! ## All changes -/

/-- A run of changes that is not stopped keeps a dialect valid. -/
theorem valid_changes (hd : d.Valid) {cs : List Change} (h : (d.changes cs).fault? = none) :
    (d.changes cs).dialect.Valid := by
  induction cs generalizing d with
  | nil => exact hd
  | cons c cs ih =>
    rw [changes, Attempt.andThen] at h ⊢
    cases hfault : (d.change c).fault? with
    | some fault =>
      simp only [hfault] at h
      cases h
    | none =>
      simp only [hfault] at h ⊢
      exact ih (valid_change hd hfault) h

/-- A built-in dialect is consistent. -/
theorem consistent_builtin (name : DialectName) (config? : Option Setting) :
    (builtin name config?).Consistent := by
  obtain ⟨quoteAll, callCase, h⟩ := name.makes_builtin config?
  have hrules : name.draft.rules? = some name.rules := by cases name <;> rfl
  have hconsistent :=
    consistent_of_checks hrules name.modifierFault?_draft name.keysFault?_draft
  rw [h]
  exact hconsistent.of_unchanged rfl rfl rfl rfl fun _ => id

/-- A dialect that others are assembled from. -/
inductive Origin : Dialect → Prop where
  /-- The one that holds nothing. -/
  | empty : Origin {}
  /-- Standard SQL before it is expanded. -/
  | standard : Origin Ansi.draft
  | builtin (name : DialectName) (config? : Option Setting) : Origin (builtin name config?)

theorem Origin.valid (h : d.Origin) : d.Valid := by
  cases h with
  | empty => exact nofun
  | standard => exact nofun
  | builtin name config? => exact fun _ => consistent_builtin name config?

/-- **An expanded dialect is consistent**, whatever changes it went through since its origin, if
none of them was stopped. -/
theorem consistent_of_changes (hd : d.Origin) {cs : List Change}
    (h : (d.changes cs).fault? = none) (hexpanded : (d.changes cs).dialect.isExpanded = true) :
    (d.changes cs).dialect.Consistent :=
  valid_changes hd.valid h hexpanded

/-- A word may be reserved, and follow a table, once no call goes by it any more. -/
theorem consistent_of_reserving_tuple :
    let cs : List Change :=
      [.removeCallSyntax "TUPLE", .addWords reservedLabel ["TUPLE"],
        .addTableModifiers [("TUPLE", .paren)], .removeRendering .struct]
    let a := (builtin .clickhouse none).changes cs
    a.fault? = none ∧ a.dialect.isExpanded = true ∧ a.dialect.Consistent := by
  intro cs a
  have hfault : a.fault? = none := by decide +kernel
  have hexpanded : a.dialect.isExpanded = true := by decide +kernel
  exact ⟨hfault, hexpanded,
    consistent_of_changes (.builtin .clickhouse none) hfault hexpanded⟩

end Dialect
end SqlDialects
