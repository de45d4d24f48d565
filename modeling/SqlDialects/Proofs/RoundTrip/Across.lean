import SqlDialects.Proofs.Rendering.Unwritable
import SqlDialects.Proofs.RoundTrip.Adapted
import SqlDialects.Proofs.RoundTrip.SameDialect

/-!
# There in one dialect, back in another

A text that a dialect writes of what another dialect read is read as the same
expression, adapted and in canonical form.  As with one dialect, this is because the
adapted expression is readable and is written as that text.
-/

namespace SqlDialects

variable {m n : DialectName} {d : Dialect}

/-! ## Literals -/

/-- The digits that a dialect writes in decimal stand for the number that it writes. -/
theorem Dialect.decimal?_of_writeDecimal? {radix : Nat} {digits text : String}
    (h : writeDecimal? radix digits = some text) :
    Literal.decimal? radix digits = some (.number text) ∧
      Lexical.isNumeral text.toList = true := by
  obtain ⟨value, hvalue, rfl⟩ := Option.map_eq_some_iff.1 h
  have hread := (Option.filter_eq_some_iff.1 hvalue).1
  unfold Literal.decimal?
  rw [hread]
  exact ⟨rfl, Lexical.isNumeral_toString value⟩

/-- A literal that a dialect can write without a form of its own is written as the decimal number
that it stands for, if it stands for one. -/
theorem Dialect.inDecimal_of_writeLiteral? {value : Literal} {text : String}
    (h : d.writeLiteral? value = some text) :
    d.writeLiteral? value.inDecimal = some text ∧
      (ReadableLiteral m value → ReadableLiteral n value.inDecimal) := by
  cases value with
  | hex digits =>
    obtain ⟨hdecimal, hnumeral⟩ := decimal?_of_writeDecimal? h
    have hvalue : (Literal.hex digits).inDecimal = .number text := by
      show (Literal.decimal? 16 digits).getD _ = _
      rw [hdecimal]
      rfl
    rw [hvalue]
    exact ⟨rfl, fun _ => hnumeral⟩
  | bits digits =>
    obtain ⟨hdecimal, hnumeral⟩ := decimal?_of_writeDecimal? h
    have hvalue : (Literal.bits digits).inDecimal = .number text := by
      show (Literal.decimal? 2 digits).getD _ = _
      rw [hdecimal]
      rfl
    rw [hvalue]
    exact ⟨rfl, fun _ => hnumeral⟩
  | number text => exact ⟨h, id⟩
  | string value => exact ⟨h, id⟩
  | boolean value => exact ⟨h, id⟩
  | null => exact ⟨h, id⟩

theorem DialectName.Makes.readableLiteral_adaptLiteral (hd : n.Makes d) (hmn : m ≠ n)
    {value : Literal} (hvalue : ReadableLiteral m value)
    (hwrites : n ≠ .clickhouse → (d.render (.literal value)).Succeeds) :
    ReadableLiteral n (n.adaptLiteral value) := by
  unfold DialectName.adaptLiteral
  by_cases hn : n = .clickhouse
  · rw [if_pos hn]
    cases value with
    | hex digits => exact absurd (hvalue.1.trans hn.symm) hmn
    | bits digits => exact absurd (hvalue.1.trans hn.symm) hmn
    | _ => exact hvalue
  · rw [if_neg hn]
    obtain ⟨text, htext⟩ := hd.exists_writeLiteral? hn (hwrites hn)
    exact (Dialect.inDecimal_of_writeLiteral? htext).2 hvalue

/-- An element that is bound to no name is an operand. -/
theorem Readable.operand_of_element {P : String → Prop} {e : Expr}
    (h : Readable n P .element e) (hname : Render.isNamed e = false) :
    Readable n P .operand e := by
  cases h with
  | element he => exact he
  | named he name => cases hname

/-! ## What is adapted is readable -/

/-- A plain call of one dialect is one of another where the name means nothing. -/
theorem ReadableCall.of_isPlainCall (hd : n.Makes d) {name : String} {args args' : List Expr}
    (h : ReadableCall m name args) (hplain : d.IsPlainCall name) : ReadableCall n name args' := by
  obtain ⟨hreserved, hcallSyntax, hbuilder⟩ := hplain
  rw [hd.isReserved] at hreserved
  rw [hd.callSyntaxes] at hcallSyntax
  rw [hd.callBuilders] at hbuilder
  exact ⟨h.isWord, hreserved,
    Or.inl ⟨Table.find?_of_binds_eq_false hcallSyntax, Table.find?_of_binds_eq_false hbuilder⟩⟩

/-- An expression may go over to a dialect: it can be written there, which only ClickHouse need not
be asked, and it calls no function that means something there. -/
structure Portable (n : DialectName) (d : Dialect) (e : Expr) : Prop where
  writes : n ≠ .clickhouse → (d.render e).Succeeds
  calls : d.CallsPlainly e

theorem Portable.of_mem_children (hd : n.Makes d) {e c : Expr} (h : Portable n d e)
    (hc : c ∈ e.children) : Portable n d c :=
  ⟨fun hn => hd.succeeds_of_mem_children hn (h.writes hn) c hc, h.calls.of_mem_children hc⟩

/-- A structure goes over to standard SQL as a call, and otherwise as a structure. -/
theorem readable_adapt_struct (hd : n.Makes d) {elements : List Expr} {surface : Option String}
    (h : Portable n d (.struct elements surface))
    (helements : ∀ e ∈ elements, Readable n n.SpellsType .element (n.adapt e)) :
    Readable n n.SpellsType .operand (n.adapt (.struct elements surface)) := by
  rw [DialectName.adapt_mk]
  by_cases hn : n = .ansi
  · subst hn
    have hnames := hd.isNamed_of_struct (h.writes nofun)
    rw [List.any_map, List.any_eq_false] at hnames
    refine .call ⟨by decide +kernel, by decide +kernel, Or.inl (by decide +kernel)⟩
      (List.forall_mem_map.2 fun e he => ?_)
    refine (helements e he).operand_of_element ?_
    rw [DialectName.isNamed_adapt]
    exact Bool.eq_false_iff.2 (hnames e he)
  · have hnode : n.adaptNode ((Node.struct elements surface).map n.adapt) =
        .struct (elements.map n.adapt) surface := if_neg hn
    rw [hnode]
    exact .struct surface hn (List.forall_mem_map.2 helements)

/-- **What one dialect read and another can write is readable there** once it is adapted, if it
calls no function that means something there. -/
theorem Readable.adapt (hd : n.Makes d) (hmn : m ≠ n) {place : Position} {e : Expr}
    (h : Readable m m.Canonical place e) (hportable : Portable n d e) :
    Readable n n.SpellsType place (n.adapt e) := by
  have hpart : ∀ {e c : Expr}, Portable n d e → c ∈ e.children → Portable n d c :=
    fun h hc => h.of_mem_children hd hc
  have hforeign : m = .clickhouse → n ≠ .clickhouse := fun hm hn => hmn (hm.trans hn.symm)
  have hmap : ∀ {P : Expr → Prop} {o : Option Expr}, (∀ e ∈ o, P (n.adapt e)) →
      ∀ e ∈ o.map n.adapt, P e := by
    intro P o h e he
    obtain ⟨e, he', rfl⟩ := Option.map_eq_some_iff.1 he
    exact h e he'
  induction h with
  | identifier id => exact .identifier id
  | compound hparts => exact .compound hparts
  | subquery _ ih =>
    have hquery := ih ⟨fun hn => ?_, hportable.calls⟩
    · rw [DialectName.adapt_mk] at hquery ⊢
      exact .subquery hquery
    · have hwrites := hportable.writes hn
      rw [hd.render_plain _ rfl] at hwrites ⊢
      exact hwrites.of_bind
  | source _ ih => exact .source (ih hportable)
  | literal hvalue =>
    rw [DialectName.adapt_mk]
    exact .literal (hd.readableLiteral_adaptLiteral hmn hvalue hportable.writes)
  | star => exact .star
  | binary _ _ hopen hopen' ihleft ihright =>
    rw [DialectName.adapt_mk]
    refine .binary (ihleft (hpart hportable List.mem_cons_self))
      (ihright (hpart hportable (List.mem_cons_of_mem _ List.mem_cons_self))) ?_ ?_
    · rw [n.needsBrackets_adapt]
      exact hopen
    · rw [n.needsBrackets_adapt]
      exact hopen'
  | unary _ hopen ih =>
    rw [DialectName.adapt_mk]
    refine .unary (ih (hpart hportable List.mem_cons_self)) ?_
    rw [n.needsBrackets_adapt]
    exact hopen
  | paren _ ih =>
    rw [DialectName.adapt_mk]
    exact .paren (ih (hpart hportable List.mem_cons_self))
  | tuple _ hlength ih =>
    rw [DialectName.adapt_mk]
    exact .tuple (List.forall_mem_map.2 fun e he => ih e he (hpart hportable he))
      (by rwa [List.length_map])
  | call hcall _ ih =>
    rw [DialectName.adapt_mk]
    exact .call (hcall.of_isPlainCall hd hportable.calls.isPlainCall)
      (List.forall_mem_map.2 fun e he => ih e he (hpart hportable he))
  | struct surface hm _ ih =>
    exact readable_adapt_struct hd hportable fun e he => ih e he (hpart hportable he)
  | cast _ htarget ih =>
    rw [DialectName.adapt_mk]
    exact .cast (ih (hpart hportable List.mem_cons_self))
      (htarget.mono fun name hname => n.spellsType_of_isWord hname.isWord)
  | approxDistinct _ ih =>
    rw [DialectName.adapt_mk]
    exact .approxDistinct (ih (hpart hportable List.mem_cons_self))
  | anyValue _ ih =>
    rw [DialectName.adapt_mk]
    exact .anyValue (ih (hpart hportable List.mem_cons_self))
  | regexpLike _ _ ihthis ihpattern =>
    rw [DialectName.adapt_mk]
    exact .regexpLike (ihthis (hpart hportable List.mem_cons_self))
      (ihpattern (hpart hportable (List.mem_cons_of_mem _ List.mem_cons_self)))
  | quantile hm =>
    have hn := hforeign hm
    exact absurd (hportable.writes hn) (hd.not_succeeds hn (Or.inl rfl))
  | varMap hm =>
    have hn := hforeign hm
    exact absurd (hportable.writes hn) (hd.not_succeeds hn (Or.inr (Or.inl rfl)))
  | final hm =>
    have hn := hforeign hm
    exact absurd (hportable.writes hn) (hd.not_succeeds hn (Or.inr (Or.inr rfl)))
  | element _ ih => exact .element (ih hportable)
  | named _ name ih =>
    rw [DialectName.adapt_mk]
    exact .named (ih (hpart hportable List.mem_cons_self)) name
  | table _ ih => exact .table (ih hportable)
  | namedTable _ name ih =>
    rw [DialectName.adapt_mk]
    exact .namedTable (ih (hpart hportable List.mem_cons_self)) name
  | @select q hne _ _ _ _ _ _ _ ih₁ ih₂ ih₃ ih₄ ih₅ ih₆ ih₇ =>
    have hall : q.All (Portable n d) := Query.all_iff.2 fun c hc => hpart hportable hc
    rw [DialectName.adapt_mk]
    exact .select (fun hnil => hne (List.map_eq_nil_iff.1 hnil))
      (List.forall_mem_map.2 fun c hc => ih₁ c hc (hall.projections c hc))
      (hmap fun c hc => ih₂ c hc (hall.source c hc)) (hmap fun c hc => ih₃ c hc (hall.filter c hc))
      (List.forall_mem_map.2 fun c hc => ih₄ c hc (hall.groupBy c hc))
      (hmap fun c hc => ih₅ c hc (hall.having c hc))
      (List.forall_mem_map.2 fun o ho => ih₆ o ho (hall.orderBy o ho))
      (hmap fun c hc => ih₇ c hc (hall.limit c hc))

/-! ## The text stays -/

/-- A node that the dialect can write is written alike once it is adapted. -/
theorem DialectName.Makes.render_adaptNode (hd : n.Makes d)
    (hcase : d.style.callCase.apply "STRUCT" = "STRUCT") {node : Node Expr}
    (h : n ≠ .clickhouse → (d.render (.mk node)).Succeeds) :
    d.render (.mk (n.adaptNode node)) = d.render (.mk node) := by
  cases node with
  | literal value =>
    show d.render (.literal (n.adaptLiteral value)) = d.render (.literal value)
    unfold DialectName.adaptLiteral
    by_cases hn : n = .clickhouse
    · rw [if_pos hn]
    · rw [if_neg hn, hd.render_literal hn, hd.render_literal hn]
      obtain ⟨text, htext⟩ := hd.exists_writeLiteral? hn (h hn)
      have hdecimal := (Dialect.inDecimal_of_writeLiteral? (m := n) (n := n) htext).1
      unfold Render.plain
      simp only [htext, hdecimal]
  | struct elements surface =>
    by_cases hn : n = .ansi
    · subst hn
      have hnames := hd.isNamed_of_struct (h nofun)
      show d.render (.call "STRUCT" elements) = _
      rw [hd.render_plain _ rfl, hd.render_of_find?_eq_none (.struct elements surface) rfl]
      simp only [Node.map, Render.plain, Render.call, hcase, hnames]
      rfl
    · have hnode : n.adaptNode (.struct elements surface) = .struct elements surface := if_neg hn
      rw [hnode]
  | _ => rfl

/-- **What is adapted is written alike**, where it can be written. -/
theorem DialectName.Makes.render_adapt (hd : n.Makes d)
    (hcase : d.style.callCase.apply "STRUCT" = "STRUCT") {e : Expr}
    (h : n ≠ .clickhouse → (d.render e).Succeeds) : d.render (n.adapt e) = d.render e := by
  induction e using Expr.induction with
  | step node ih =>
    have hchildren : d.render (.mk (node.map n.adapt)) = d.render (.mk node) := by
      rw [Dialect.render_mk, Node.map_map, Dialect.render_mk]
      exact Render.node_congr fun c hc => ⟨n.precedence?_adapt c, n.isNamed_adapt c,
        ih c hc fun hn => hd.succeeds_of_mem_children hn (h hn) c hc⟩
    rw [DialectName.adapt_mk, hd.render_adaptNode hcase fun hn => hchildren ▸ h hn, hchildren]

/-! ## There and back -/

theorem ReadableStatement.adapt (hd : n.Makes d) (hmn : m ≠ n) {e : Expr}
    (h : ReadableStatement m m.Canonical e) (hportable : Portable n d e) :
    ReadableStatement n n.SpellsType (n.adapt e) :=
  h.imp (·.adapt hd hmn hportable) (·.adapt hd hmn hportable)

/-- **What one dialect reads and another writes is read there as the same**, adapted and in
canonical form, if it calls no function that means something there. -/
theorem parseOne_write_of_parse_other {source target : DialectName} (hne : source ≠ target)
    {text : String} {es : List Expr}
    (h : ((Dialect.builtin source none).parse text).outcome = .ok es) {e : Expr} (he : e ∈ es)
    {s : String} (hwrite : ((Dialect.builtin target none).write e).outcome = .ok s)
    (hcalls : (Dialect.builtin target none).CallsPlainly e) :
    ((Dialect.builtin target none).parseOne s).outcome =
      .ok ((Dialect.builtin target none).canon (target.adapt e)) := by
  have hd := target.makes_builtin none
  have hcase : (Dialect.builtin target none).style.callCase.apply "STRUCT" = "STRUCT" := by
    cases target <;> decide +kernel
  have hreadable := readable_of_parse (source.makes_builtin none) h e he
  have hwrites : ((Dialect.builtin target none).render e).Succeeds :=
    ⟨s, Dialect.outcome_write_eq_ok.1 hwrite⟩
  obtain ⟨s', hwrite', hparse⟩ := exists_write_parseOne hd
    (hreadable.adapt hd hne ⟨fun _ => hwrites, hcalls⟩)
  rw [Dialect.outcome_write_eq_ok] at hwrite hwrite'
  rw [hd.render_adapt hcase fun _ => hwrites, hwrite] at hwrite'
  cases hwrite'
  exact hparse

/-- The distinct values of `0xFF` in ClickHouse are those of `255` in standard SQL. -/
theorem parseOne_write_uniq :
    let e : Expr := .approxDistinct (.literal (.hex "FF"))
    ((Dialect.builtin .clickhouse none).parse "uniq(0xFF)").outcome = .ok [e] ∧
      ((Dialect.builtin .ansi none).write e).outcome = .ok "APPROX_DISTINCT(255)" ∧
      (Dialect.builtin .ansi none).CallsPlainly e ∧
      ((Dialect.builtin .ansi none).parseOne "APPROX_DISTINCT(255)").outcome =
        .ok (.approxDistinct (.literal (.number "255"))) := by
  intro e
  have hparse : ((Dialect.builtin .clickhouse none).parse "uniq(0xFF)").outcome = .ok [e] := by
    decide +kernel
  have hwrite : ((Dialect.builtin .ansi none).write e).outcome = .ok "APPROX_DISTINCT(255)" := by
    decide +kernel
  have hcalls : (Dialect.builtin .ansi none).CallsPlainly e := by
    unfold Dialect.CallsPlainly
    decide +kernel
  have hcanon : (Dialect.builtin .ansi none).canon (DialectName.ansi.adapt e) =
      .approxDistinct (.literal (.number "255")) := by
    decide +kernel
  have hback := parseOne_write_of_parse_other (by decide) hparse List.mem_cons_self hwrite hcalls
  exact ⟨hparse, hwrite, hcalls, hcanon ▸ hback⟩

end SqlDialects
