import SqlDialects.Proofs.RoundTrip.Across

/-!
# What is translated is accepted

A translation is of use if the dialect that it is meant for reads it.  It does when
the dialects are the same one, and from any dialect into standard SQL; and otherwise
if no function is called under a name that means something to the target
(`exists_parseOne_of_translate`).

That condition cannot be dropped.  A writer puts a name into quotes where the target
would not read it as a name, but the name of a function cannot be put into quotes,
and nothing else is done about it: `final(a)` is a call in standard SQL, goes over to
ClickHouse as it is, and is no expression there, where `FINAL` is reserved
(`not_parseOne_final`).
-/

namespace SqlDialects

variable {m n : DialectName} {d : Dialect}

/-! ## Calls in standard SQL -/

/-- A plain call is one as its dialect reads it. -/
theorem Readable.readableCall {P : String → Prop} {place : Position} {name : String}
    {args : List Expr} (h : Readable n P place (.call name args)) : ReadableCall n name args := by
  generalize he : Expr.call name args = e at h
  induction h with
  | source _ ih | element _ ih | table _ ih => exact ih he
  | call hcall _ =>
    cases he
    exact hcall
  | _ => cases he

/-- What means something to standard SQL means the same to every dialect, so a plain call of any
dialect is one of standard SQL. -/
theorem ReadableCall.isPlainCall_ansi (hd : DialectName.ansi.Makes d) {name : String}
    {args : List Expr} (h : ReadableCall m name args) : d.IsPlainCall name := by
  have hreserved : ∀ w ∈ DialectName.ansi.lexer.reserved, m.lexer.reserved.contains w = true := by
    cases m <;> decide +kernel
  have hcallSyntaxes : ∀ e ∈ DialectName.ansi.draft.callSyntaxes,
      m.draft.callSyntaxes.find? e.1 = some .cast := by
    cases m <;> decide
  have hcallBuilders : ∀ e ∈ DialectName.ansi.draft.callBuilders,
      m.draft.callSyntaxes.find? e.1 = none ∧ (m.draft.callBuilders.find? e.1).isSome = true := by
    cases m <;> decide
  unfold Dialect.IsPlainCall
  rw [hd.isReserved, hd.callSyntaxes, hd.callBuilders]
  refine ⟨Bool.eq_false_iff.2 fun hname => ?_, Bool.eq_false_iff.2 fun hname => ?_,
    Bool.eq_false_iff.2 fun hname => ?_⟩
  · have hm := hreserved _ (List.contains_iff_mem.1 hname)
    exact Bool.eq_false_iff.1 h.notReserved hm
  · obtain ⟨callSyntax, hfind⟩ := Option.isSome_iff_exists.1 hname
    have hcast := hcallSyntaxes _ (Table.mem_of_find?_eq_some hfind)
    rcases h.plain with ⟨hnone, -⟩ | ⟨hquantile, -⟩
    · rw [hnone] at hcast
      cases hcast
    · rw [hquantile] at hcast
      cases hcast
  · obtain ⟨builder, hfind⟩ := Option.isSome_iff_exists.1 hname
    obtain ⟨hnone, hsome⟩ := hcallBuilders _ (Table.mem_of_find?_eq_some hfind)
    rcases h.plain with ⟨-, hnone'⟩ | ⟨hquantile, -⟩
    · rw [hnone'] at hsome
      cases hsome
    · rw [hquantile] at hnone
      cases hnone

/-- Whatever a dialect reads calls nothing that means something to standard SQL. -/
theorem Readable.callsPlainly_ansi (hd : DialectName.ansi.Makes d) {P : String → Prop} {e : Expr}
    {place : Position} (h : Readable m P place e) : d.CallsPlainly e := by
  induction e using Expr.induction generalizing place with
  | step node ih =>
    intro name hname
    rw [Expr.callNames_mk, List.mem_append, List.mem_flatMap] at hname
    rcases hname with hname | ⟨c, hc, hname⟩
    · cases node with
      | call name' args =>
        obtain rfl := List.mem_singleton.1 hname
        exact h.readableCall.isPlainCall_ansi hd
      | _ => cases hname
    · obtain ⟨place', hplace⟩ := h.exists_of_mem_children hc
      exact ih c hc hplace name hname

/-! ## Translations -/

theorem Traced.of_all_eq_ok {ε α β : Type} {f : α → Traced ε β} {as : List α} {bs : List β}
    (h : (Traced.all (as.map f)).outcome = .ok bs) : ∀ b ∈ bs, ∃ a ∈ as, (f a).outcome = .ok b := by
  induction as generalizing bs with
  | nil =>
    cases h
    exact nofun
  | cons a as ih =>
    have hall : (f a >>= fun b => do return b :: (← Traced.all (as.map f))).outcome = .ok bs := h
    rw [outcome_bind] at hall
    cases hfirst : (f a).outcome with
    | error failure =>
      rw [hfirst] at hall
      cases hall
    | ok b =>
      rw [hfirst] at hall
      change (Traced.all (as.map f) >>= fun later => pure (b :: later)).outcome = .ok bs at hall
      rw [outcome_bind] at hall
      cases hlater : (Traced.all (as.map f)).outcome with
      | error failure =>
        rw [hlater] at hall
        cases hall
      | ok later =>
        rw [hlater] at hall
        cases hall
        refine List.forall_mem_cons.2 ⟨⟨a, List.mem_cons_self, hfirst⟩, fun b' hb' => ?_⟩
        obtain ⟨a', ha', heq⟩ := ih hlater b' hb'
        exact ⟨a', List.mem_cons_of_mem a ha', heq⟩

/-- The texts of a translation are of the statements that were read. -/
theorem exists_write_of_translate {source target : Dialect} {text : String} {outs : List String}
    (h : (translate source target text).outcome = .ok outs) :
    ∃ es, (source.parse text).outcome = .ok es ∧
      ∀ s ∈ outs, ∃ e ∈ es, (target.write e).outcome = .ok s := by
  have hwrite : (source.parse text >>= fun es => Traced.all (es.map target.write)).outcome =
      .ok outs := h
  rw [Traced.outcome_bind] at hwrite
  cases hparse : (source.parse text).outcome with
  | error failure =>
    rw [hparse] at hwrite
    cases hwrite
  | ok es =>
    rw [hparse] at hwrite
    exact ⟨es, rfl, Traced.of_all_eq_ok hwrite⟩

/-- A text is read if it is that of something readable. -/
theorem ReadableStatement.exists_parseOne (hd : n.Makes d) {e e' : Expr} {s : String}
    (h : ReadableStatement n n.SpellsType e') (hrender : d.render e' = d.render e)
    (hwrite : (d.write e).outcome = .ok s) : ∃ e, (d.parseOne s).outcome = .ok e := by
  obtain ⟨s', hwrite', hparse⟩ := exists_write_parseOne hd h
  rw [Dialect.outcome_write_eq_ok] at hwrite hwrite'
  rw [hrender, hwrite] at hwrite'
  cases hwrite'
  exact ⟨_, hparse⟩

/-- **What is translated is accepted**: every text that comes of a translation is one statement of
the dialect that it is for, if that is the dialect that was read, or standard SQL, or if no function
is called under a name that means something there. -/
theorem exists_parseOne_of_translate {source target : DialectName}
    {text : String} {outs : List String}
    (h : (translate (.builtin source none) (.builtin target none) text).outcome = .ok outs)
    (hcalls : source = target ∨ target = .ansi ∨
      ∀ es, ((Dialect.builtin source none).parse text).outcome = .ok es →
        ∀ e ∈ es, (Dialect.builtin target none).CallsPlainly e) :
    ∀ s ∈ outs, ∃ e, ((Dialect.builtin target none).parseOne s).outcome = .ok e := by
  intro s hs
  have hd := target.makes_builtin none
  obtain ⟨es, hparse, houts⟩ := exists_write_of_translate h
  obtain ⟨e, he, hwrite⟩ := houts s hs
  have hreadable := readable_of_parse (source.makes_builtin none) hparse e he
  by_cases hsame : source = target
  · subst hsame
    exact (hreadable.mono fun _ hname =>
      source.spellsType_of_isWord hname.isWord).exists_parseOne hd rfl hwrite
  · have hplain : (Dialect.builtin target none).CallsPlainly e := by
      rcases hcalls with hcalls | rfl | hcalls
      · exact absurd hcalls hsame
      · exact hreadable.elim (·.callsPlainly_ansi hd) (·.callsPlainly_ansi hd)
      · exact hcalls es hparse e he
    have hwrites : ((Dialect.builtin target none).render e).Succeeds :=
      ⟨s, Dialect.outcome_write_eq_ok.1 hwrite⟩
    have hcase : (Dialect.builtin target none).style.callCase.apply "STRUCT" = "STRUCT" := by
      cases target <;> decide +kernel
    exact (hreadable.adapt hd hsame ⟨fun _ => hwrites, hplain⟩).exists_parseOne hd
      (hd.render_adapt hcase fun _ => hwrites) hwrite

/-- A call under a name that is free in both dialects goes over. -/
theorem exists_parseOne_of_translate_call :
    let d := Dialect.builtin .clickhouse none
    (translate (.builtin .ansi none) d "f(a); \"final\"").outcome = .ok ["f(a)", "\"final\""] ∧
      ∀ s ∈ ["f(a)", "\"final\""], ∃ e, (d.parseOne s).outcome = .ok e := by
  intro d
  have htranslate : (translate (.builtin .ansi none) d "f(a); \"final\"").outcome =
      .ok ["f(a)", "\"final\""] := by decide +kernel
  refine ⟨htranslate, exists_parseOne_of_translate htranslate (Or.inr (Or.inr fun es hes => ?_))⟩
  have hparse : ((Dialect.builtin .ansi none).parse "f(a); \"final\"").outcome =
      .ok [.call "f" [.identifier ⟨"a", false⟩], .identifier ⟨"final", true⟩] := by decide +kernel
  rw [hparse] at hes
  cases hes
  unfold Dialect.CallsPlainly
  decide +kernel

/-- ClickHouse is given a call of `final`, which it cannot read. -/
theorem not_parseOne_final :
    let d := Dialect.builtin .clickhouse none
    (translate (.builtin .ansi none) d "final(a)").outcome = .ok ["final(a)"] ∧
      ¬ ∃ e, (d.parseOne "final(a)").outcome = .ok e := by
  intro d
  have hfails : (d.parseOne "final(a)").outcome.isOk = false := by decide +kernel
  refine ⟨by decide +kernel, ?_⟩
  rintro ⟨e, he⟩
  rw [he] at hfails
  cases hfails

end SqlDialects
