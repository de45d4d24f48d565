import SqlDialects.Proofs.Dialect.Consistent

/-!
# Registrations that are rejected

To register something is to write it into one part of a dialect and then, if the dialect
is expanded, to expand it again.  What does not fit is found out in the second step, and
nothing takes back the first: a dialect that has rejected a reserved word as the name of
a call has the call (`not_unchanged_reserved_name`).

So much is kept all the same (`rejected_keeps`).  A rejected registration touches one
part, and the lexer is not that part, so texts are cut into tokens as before.  The part
is left as if the dialect had not been expanded when it was written, and who expands it
next is told of the same fault again.  And where the first step itself is rejected there
is nothing to take back, if it is not that rules go before one that is missing.

All of it is read off from one account of the two steps, `registers`.
-/

namespace SqlDialects

namespace Dialect

/-- The parts of a dialect that registrations write to. -/
inductive Part where
  | rules
  | words
  | callSyntaxes
  | callBuilders
  | tableModifiers
  deriving DecidableEq, Repr

/-- A dialect with one part of another. -/
def withPart (d e : Dialect) : Part → Dialect
  | .rules => { d with rules? := e.rules? }
  | .words => { d with wordSets := e.wordSets }
  | .callSyntaxes => { d with callSyntaxes := e.callSyntaxes }
  | .callBuilders => { d with callBuilders := e.callBuilders }
  | .tableModifiers => { d with tableModifiers := e.tableModifiers }

end Dialect

/-- The part that a registration writes to.  Changes that check nothing are none, and neither is
expanding. -/
def Change.part? : Change → Option Dialect.Part
  | .setRules _ | .insertRules _ _ | .patchRules _ => some .rules
  | .addWords _ _ | .removeWords _ _ => some .words
  | .addCallSyntaxes _ | .replaceCallSyntax _ _ => some .callSyntaxes
  | .addCallBuilders _ => some .callBuilders
  | .addTableModifiers _ => some .tableModifiers
  | .removeCallSyntax _ | .addTypeAliases _ | .addTypeNames _ | .addRenderings _
  | .removeRendering _ | .expand => none

namespace Dialect

/-- A change as it is to a dialect that is not expanded, with the lexer put back. -/
def unchecked (d : Dialect) (c : Change) : Attempt :=
  let a := ({ d with lexer? := none } : Dialect).change c
  { a with dialect := { a.dialect with lexer? := d.lexer? } }

variable {d e : Dialect} {c : Change} {part : Part} {f : Fault}

/-! ## Faults of expanding -/

/-- Where expanding is stopped, nothing was done. -/
theorem expand_of_fault (h : d.expand.fault? = some f) : d.expand = .stopped d f := by
  unfold expand at h ⊢
  split at h
  · cases h
    rfl
  · split at h
    · cases h
      rfl
    · cases h

/-- Refreshing is stopped only where the dialect is expanded, and expanding is. -/
theorem refresh_of_fault (h : d.refresh.fault? = some f) :
    d.isExpanded = true ∧ d.refresh = .stopped d f ∧ d.expand = .stopped d f := by
  unfold refresh at h ⊢
  split at h
  · rename_i hexpanded
    have hexpand := expand_of_fault h
    rw [if_pos hexpanded]
    exact ⟨hexpanded, hexpand, hexpand⟩
  · cases h

/-! ## The two steps of a registration -/

/-- How a registration goes: it is stopped with nothing checked, or it writes to its part and the
dialect is refreshed, or left, with that. -/
inductive Registers (d : Dialect) (c : Change) (part : Part) : Prop where
  | stopped (e : Dialect) (f : Fault) (hpart : e = d.withPart e part)
    (hkept : (∀ more before, c = .insertRules more before → d.rules? = none) → e = d)
    (hchange : d.change c = .stopped e f) (hunchecked : d.unchecked c = .stopped e f)
  | written (e : Dialect) (hpart : e = d.withPart e part)
    (hchange : d.change c = e.refresh ∨ d.change c = .done e) (hunchecked : d.unchecked c = .done e)

/-- **Every registration goes so.** -/
theorem registers (d : Dialect) (h : c.part? = some part) : Registers d c part := by
  cases c with
  | setRules | addWords | addCallSyntaxes | addCallBuilders | addTableModifiers =>
    cases h
    exact .written _ rfl (.inl rfl) rfl
  | removeWords label words =>
    cases h
    refine .written (d.withoutWords label words) ?_ (.inl rfl) ?_
    all_goals
      simp only [unchecked, change, withoutWords]
      cases d.wordSets.find? label <;> rfl
  | insertRules more before =>
    cases h
    rcases d with ⟨_, _ | rules⟩
    · exact .stopped _ .noRulesToChange rfl (fun _ => rfl) rfl rfl
    · by_cases hfound : rules.any (·.name = before) = true
      · refine .written _ rfl (.inl (if_pos hfound)) ?_
        simp only [unchecked, change, insertRules, if_pos hfound]
        rfl
      · refine .stopped _ _ rfl (fun hnone => ?_) (if_neg hfound) ?_
        · cases hnone more before rfl
        · simp only [unchecked, change, insertRules, if_neg hfound]
          rfl
  | patchRules others =>
    cases h
    rcases d with ⟨_, _ | rules⟩
    · exact .stopped _ .noRulesToChange rfl (fun _ => rfl) rfl rfl
    · exact .written _ rfl (.inl rfl) rfl
  | replaceCallSyntax key callSyntax =>
    cases h
    by_cases hbound : d.callSyntaxes.binds key = true
    · refine .written _ rfl (.inr (if_pos hbound)) ?_
      simp only [unchecked, change, if_pos hbound]
      rfl
    · refine .stopped _ _ rfl (fun _ => rfl) (if_neg hbound) ?_
      simp only [unchecked, change, if_neg hbound]
      rfl
  | removeCallSyntax | addTypeAliases | addTypeNames | addRenderings | removeRendering | expand =>
    cases h

/-- **A rejected registration leaves all but the part that it writes to.**  It leaves that too if
the dialect was not expanded, or would have rejected it even so, and it does not go among rules that
there are.  Otherwise the part is as it would have been written in a dialect that is not expanded,
and expanding is stopped by the same fault. -/
theorem rejected_keeps (d : Dialect) {c : Change} {part : Part} {f : Fault}
    (hc : c.part? = some part) (h : (d.change c).fault? = some f) :
    let e := (d.change c).dialect
    e = d.withPart e part ∧
    (d.isExpanded = false ∨ (d.unchecked c).fault? ≠ none →
      (∀ more before, c = .insertRules more before → d.rules? = none) → e = d) ∧
    (d.isExpanded = true → (d.unchecked c).fault? = none →
      e = (d.unchecked c).dialect ∧ e.expand = .stopped e f) := by
  cases registers d hc with
  | stopped e f' hpart hkept hchange hunchecked =>
    rw [hchange, hunchecked]
    exact ⟨hpart, fun _ => hkept, nofun⟩
  | written e hpart hchange hunchecked =>
    have hrefresh : d.change c = e.refresh := by
      refine hchange.resolve_right fun hdone => ?_
      rw [hdone] at h
      cases h
    rw [hrefresh] at h ⊢
    obtain ⟨hexpanded, hstopped, hexpand⟩ := refresh_of_fault h
    have hlexer : e.lexer? = d.lexer? := by
      rw [hpart]
      cases part <;> rfl
    rw [hstopped, hunchecked]
    refine ⟨hpart, ?_, fun _ _ => ⟨rfl, hexpand⟩⟩
    rintro (hnot | hfault)
    · rw [isExpanded, hlexer, ← isExpanded, hnot] at hexpanded
      cases hexpanded
    · exact absurd rfl hfault

/-- Standard SQL rejects a reserved word as the name of a call, having registered it. -/
theorem rejected_keeps_reserved_name :
    let d := builtin .ansi none
    let c : Change := .addCallSyntaxes [("SELECT", .struct)]
    let e := (d.change c).dialect
    c.part? = some .callSyntaxes ∧ (d.change c).fault? = some (.keyReserved .ansi "SELECT") ∧
      e = d.withPart e .callSyntaxes ∧ e = (d.unchecked c).dialect ∧
      e.expand = .stopped e (.keyReserved .ansi "SELECT") := by
  intro d c e
  have hfault : (d.change c).fault? = some (.keyReserved .ansi "SELECT") := by decide +kernel
  obtain ⟨hpart, -, hchecked⟩ := rejected_keeps d (c := c) rfl hfault
  obtain ⟨hunchecked, hexpand⟩ := hchecked (by decide +kernel) (by decide +kernel)
  exact ⟨rfl, hfault, hpart, hunchecked, hexpand⟩

/-- What was rejected is found afterwards, and was not before. -/
theorem not_unchanged_reserved_name :
    let d := builtin .ansi none
    let a := d.change (.addCallSyntaxes [("SELECT", .struct)])
    a.fault? = some (.keyReserved .ansi "SELECT") ∧ d.callSyntaxes.binds "SELECT" = false ∧
      a.dialect.callSyntaxes.binds "SELECT" = true ∧ a.dialect ≠ d := by
  intro d a
  have hbefore : d.callSyntaxes.binds "SELECT" = false := by decide +kernel
  have hafter : a.dialect.callSyntaxes.binds "SELECT" = true := by decide +kernel
  refine ⟨by decide +kernel, hbefore, hafter, fun heq => ?_⟩
  rw [heq, hbefore] at hafter
  cases hafter

end Dialect
end SqlDialects
