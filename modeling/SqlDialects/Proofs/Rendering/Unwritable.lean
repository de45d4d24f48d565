import SqlDialects.Proofs.Expr.Part
import SqlDialects.Proofs.Numeral.Value
import SqlDialects.Proofs.Rendering.Alike
import SqlDialects.Proofs.Rendering.Parts
import SqlDialects.Translate

/-!
# What a dialect cannot write

Writing an expression fails at some node, and the error says at a node of which kind.
`DialectName.CannotWrite` lists the nodes at which a built-in dialect fails, each by
what can be seen at the node itself.  An expression is written exactly if it has no
such node at any depth, and the error is about one of them otherwise
(`outcome_builtin_write`).

One direction looks at what errors a computation can end in: `FailsOnly E x` says that
it ends in none but those that satisfy `E`.  It passes through everything that
rendering is made of, and so an error can only come from a node that fails by itself.
The other direction looks at success: what is written is written in all its parts.
-/

namespace SqlDialects

/-! ## Nodes without a text -/

/-- Digits that denote no number of at most a hundred and twenty-eight bits. -/
def Literal.DenotesNone : Literal → Prop
  | .hex digits => ¬ ∃ value < 2 ^ 128, Numeral.Denotes 16 digits.toList value
  | .bits digits => ¬ ∃ value < 2 ^ 128, Numeral.Denotes 2 digits.toList value
  | _ => False

/-- A node that standard SQL has no form for. -/
def Node.LacksPlainForm {ε : Type} : Node ε → Prop
  | .quantile _ _ | .varMap _ _ | .final _ => True
  | .literal value => value.DenotesNone
  | _ => False

/-- A structure with an element that is bound to a name. -/
def Node.NamesElement : Node Expr → Prop
  | .struct elements _ => ∃ e ∈ elements, e.kind = .aliased
  | _ => False

/-- A built-in dialect has no way to write a node, whatever its children are. -/
def DialectName.CannotWrite : DialectName → Node Expr → Prop
  | .ansi, node => node.LacksPlainForm ∨ node.NamesElement
  | .bigquery, node => node.LacksPlainForm
  | .clickhouse, _ => False

theorem Dialect.writeDecimal?_eq_none_iff {radix : Nat} (hradix : radix ≤ 16) {digits : String} :
    writeDecimal? radix digits = none ↔
      ¬ ∃ value < 2 ^ 128, Numeral.Denotes radix digits.toList value := by
  unfold writeDecimal?
  rw [Option.map_eq_none_iff, Option.filter_eq_none_iff]
  simp only [Numeral.readNatural?_eq_some_iff hradix, decide_eq_true_eq]
  constructor
  · rintro h ⟨value, hlt, hvalue⟩
    exact h value hvalue hlt
  · exact fun h value hvalue hlt => h ⟨value, hlt, hvalue⟩

theorem Dialect.writeLiteral?_eq_none_iff (d : Dialect) {value : Literal} :
    d.writeLiteral? value = none ↔ value.DenotesNone := by
  cases value with
  | hex digits => exact writeDecimal?_eq_none_iff (by decide)
  | bits digits => exact writeDecimal?_eq_none_iff (by decide)
  | number | string | boolean | null => exact iff_of_false nofun id

theorem Render.isNamed_iff {e : Expr} : isNamed e = true ↔ e.kind = .aliased := by
  obtain ⟨node⟩ := e
  cases node with
  | aliased => exact iff_of_true rfl rfl
  | _ => exact iff_of_false nofun nofun

/-! ## Errors -/

namespace Traced

variable {ε α β : Type} {E : ε → Prop}

/-- Every error that the computation may end in satisfies `E`. -/
def FailsOnly (E : ε → Prop) (x : Traced ε α) : Prop := ∀ u, x.outcome = .error u → E u

theorem FailsOnly.pure (a : α) : (Pure.pure a : Traced ε α).FailsOnly E := nofun

theorem FailsOnly.note (n : Note) : (Traced.note n : Traced ε Unit).FailsOnly E := nofun

theorem FailsOnly.fail {u : ε} (h : E u) : (Traced.fail u : Traced ε α).FailsOnly E := by
  rintro _ ⟨⟩
  exact h

theorem FailsOnly.bind {x : Traced ε α} {next : α → Traced ε β} (hx : x.FailsOnly E)
    (hnext : ∀ a, (next a).FailsOnly E) : (x >>= next).FailsOnly E := by
  intro u hu
  rw [outcome_bind] at hu
  cases hout : x.outcome with
  | error e =>
    rw [hout] at hu
    cases hu
    exact hx u hout
  | ok a =>
    rw [hout] at hu
    exact hnext a u hu

theorem FailsOnly.all {xs : List (Traced ε α)} (h : ∀ x ∈ xs, x.FailsOnly E) :
    (Traced.all xs).FailsOnly E := by
  induction xs with
  | nil => exact .pure _
  | cons x xs ih =>
    obtain ⟨hx, hxs⟩ := List.forall_mem_cons.1 h
    exact hx.bind fun a => (ih hxs).bind fun as => .pure _

end Traced

namespace Render

open Traced

variable {d : Dialect} {E : Unsupported → Prop}

theorem failsOnly_operand {child : Child} (h : child.2.FailsOnly E) (outer : Nat)
    (onRight : Bool) : (operand child outer onRight).FailsOnly E :=
  h.bind fun _ => .pure _

theorem failsOnly_list {children : List Child} (h : ∀ c ∈ children, c.2.FailsOnly E) :
    (list children).FailsOnly E :=
  (FailsOnly.all (List.forall_mem_map.2 h)).bind fun _ => .pure _

theorem failsOnly_called {args : List Child} (h : ∀ c ∈ args, c.2.FailsOnly E) (word : String) :
    (called word args).FailsOnly E :=
  (failsOnly_list h).bind fun _ => .pure _

theorem failsOnly_clause {o : Option Child} (h : ∀ c ∈ o, c.2.FailsOnly E) (words : String) :
    (clause words o).FailsOnly E := by
  cases o with
  | none => exact .pure _
  | some c => exact (h c rfl).bind fun _ => .pure _

theorem failsOnly_clauseList {texts : List Sql} (h : ∀ x ∈ texts, x.FailsOnly E)
    (words : String) : (clauseList words texts).FailsOnly E := by
  cases texts with
  | nil => exact .pure _
  | cons x texts => exact (FailsOnly.all h).bind fun _ => .pure _

theorem failsOnly_query {q : Query Child} (h : ∀ c ∈ q.children, c.2.FailsOnly E) :
    (query q).FailsOnly E := by
  have hall := Query.all_iff.2 h
  have hkeys : ∀ key ∈ q.orderBy, (sortKey key).FailsOnly E :=
    fun key hkey => (hall.orderBy key hkey).bind fun _ => .pure _
  refine (failsOnly_list hall.projections).bind fun _ => ?_
  refine (failsOnly_clause hall.source _).bind fun _ => ?_
  refine (failsOnly_clause hall.filter _).bind fun _ => ?_
  refine (failsOnly_clauseList (List.forall_mem_map.2 hall.groupBy) _).bind fun _ => ?_
  refine (failsOnly_clause hall.having _).bind fun _ => ?_
  refine (failsOnly_clauseList (List.forall_mem_map.2 hkeys) _).bind fun _ => ?_
  exact (failsOnly_clause hall.limit _).bind fun _ => .pure _

/-- Written in the plain way, a node fails only as its children do, or because standard SQL cannot
say it. -/
theorem failsOnly_plain {node : Node Child} (hchildren : ∀ c ∈ node.children, c.2.FailsOnly E)
    (hself : (node.map (·.1)).LacksPlainForm ∨ (node.map (·.1)).NamesElement →
      E ⟨node.kind, d.name⟩) : (plain d node).FailsOnly E := by
  cases node with
  | identifier | compound | star => exact .pure _
  | literal value =>
    cases hvalue : d.writeLiteral? value with
    | some text =>
      simp only [plain, hvalue]
      exact .pure _
    | none =>
      simp only [plain, hvalue]
      exact .fail (hself (Or.inl (d.writeLiteral?_eq_none_iff.1 hvalue)))
  | binary left op right =>
    have hleft := hchildren left List.mem_cons_self
    have hright := hchildren right (List.mem_cons_of_mem _ List.mem_cons_self)
    refine (failsOnly_operand hleft _ _).bind fun _ => ?_
    exact (failsOnly_operand hright _ _).bind fun _ => .pure _
  | unary op inner =>
    exact (failsOnly_operand (hchildren inner List.mem_cons_self) _ _).bind fun _ => .pure _
  | paren inner | aliased inner name | cast inner target =>
    exact (hchildren inner List.mem_cons_self).bind fun _ => .pure _
  | tuple args | call name args | approxDistinct this | anyValue this | regexpLike this pattern =>
    exact failsOnly_called hchildren _
  | struct elements surface =>
    show (if _ then _ else _ : Sql).FailsOnly E
    split
    · rename_i hnamed
      obtain ⟨c, hc, hname⟩ := List.any_eq_true.1 hnamed
      exact .fail (hself (Or.inr ⟨c.1, List.mem_map_of_mem hc, isNamed_iff.1 hname⟩))
    · exact failsOnly_called hchildren _
  | quantile | varMap | final => exact .fail (hself (Or.inl trivial))
  | subquery q => exact (failsOnly_query hchildren).bind fun _ => .pure _
  | select q => exact failsOnly_query hchildren

end Render

namespace DialectName.Makes

open Traced Render

variable {n : DialectName} {d : Dialect} {E : Unsupported → Prop}

/-- **A node fails only as its children do, or because the dialect cannot write it.** -/
theorem failsOnly_node (hd : n.Makes d) {node : Node Child}
    (hchildren : ∀ c ∈ node.children, c.2.FailsOnly E)
    (hself : n.CannotWrite (node.map (·.1)) → E ⟨node.kind, n⟩) :
    (Render.node d node).FailsOnly E := by
  have hname : d.name = n := hd.name
  unfold Render.node
  rw [hd.renderings]
  cases n with
  | ansi => exact failsOnly_plain hchildren (hname ▸ hself)
  | bigquery =>
    cases node with
    | struct elements surface =>
      exact (FailsOnly.note _).bind fun _ => failsOnly_called hchildren _
    | _ => exact failsOnly_plain hchildren (hname ▸ (hself <| ·.resolve_right nofun))
  | clickhouse =>
    cases node with
    | struct | approxDistinct | anyValue | regexpLike =>
      exact (FailsOnly.note _).bind fun _ => failsOnly_called hchildren _
    | quantile this level =>
      have hthis := hchildren this List.mem_cons_self
      have hlevel := hchildren level (List.mem_cons_of_mem _ List.mem_cons_self)
      exact (FailsOnly.note _).bind fun _ => hlevel.bind fun _ => hthis.bind fun _ => .pure _
    | varMap keys values =>
      refine (FailsOnly.note _).bind fun _ => failsOnly_called (fun c hc => hchildren c ?_) _
      exact List.mem_append.2 (mem_of_mem_interleave hc)
    | final table =>
      have htable := hchildren table List.mem_cons_self
      exact (FailsOnly.note _).bind fun _ => htable.bind fun _ => .pure _
    | literal value =>
      refine (FailsOnly.note _).bind fun _ => ?_
      cases value with
      | hex | bits => exact .pure _
      | _ => exact failsOnly_plain hchildren fun h => (h.elim id id).elim
    | _ => exact failsOnly_plain hchildren fun h => (h.elim id id).elim

/-- **Every error is about a part that the dialect cannot write.** -/
theorem failsOnly_render (hd : n.Makes d) (e : Expr) :
    (d.render e).FailsOnly fun u =>
      ∃ p, e.HasPart p ∧ n.CannotWrite p.node ∧ u = ⟨p.kind, n⟩ := by
  induction e using Expr.induction with
  | step node ih =>
    rw [Dialect.render_mk]
    refine hd.failsOnly_node ?_ ?_
    · rw [Node.children_map]
      refine List.forall_mem_map.2 fun c hc u hu => ?_
      obtain ⟨p, hp, hcannot, rfl⟩ := ih c hc u hu
      exact ⟨p, .of_mem_children hc hp, hcannot, rfl⟩
    · rw [Node.map_map, Node.kind_map]
      intro hcannot
      refine ⟨.mk node, .self, ?_, rfl⟩
      rw [← Node.map_id node]
      exact hcannot

/-! ## Success -/

theorem render_literal (hd : n.Makes d) (hn : n ≠ .clickhouse)
    (value : Literal) : d.render (.literal value) = Render.plain d (.literal value) := by
  refine hd.render_of_find?_eq_none _ ?_
  cases n with
  | clickhouse => exact absurd rfl hn
  | ansi => rfl
  | bigquery => rfl

theorem exists_writeLiteral? (hd : n.Makes d) (hn : n ≠ .clickhouse)
    {value : Literal} (h : (d.render (.literal value)).Succeeds) :
    ∃ text, d.writeLiteral? value = some text := by
  rw [hd.render_literal hn] at h
  cases hvalue : d.writeLiteral? value with
  | some text => exact ⟨text, rfl⟩
  | none =>
    unfold Render.plain at h
    simp only [hvalue] at h
    exact absurd h (Traced.not_succeeds_fail _)

/-- Quantiles, maps and merged tables have no plain form. -/
theorem not_succeeds (hd : n.Makes d) (hn : n ≠ .clickhouse) {node : Node Expr}
    (hkind : node.kind = .quantile ∨ node.kind = .varMap ∨ node.kind = .final) :
    ¬ (d.render (.mk node)).Succeeds := by
  have hnone : n.draft.renderings.find? node.kind = none := by
    cases n with
    | clickhouse => exact absurd rfl hn
    | ansi => rfl
    | bigquery => rcases hkind with hkind | hkind | hkind <;> rw [hkind] <;> rfl
  rw [hd.render_of_find?_eq_none node hnone]
  cases node with
  | quantile | varMap | final => exact Traced.not_succeeds_fail _
  | _ => rcases hkind with hkind | hkind | hkind <;> cases hkind

/-- In standard SQL the elements of a structure have no names. -/
theorem isNamed_of_struct (hd : DialectName.ansi.Makes d) {elements : List Expr}
    {surface : Option String} (h : (d.render (.struct elements surface)).Succeeds) :
    ((elements.map fun e => (e, d.render e)).any fun child => Render.isNamed child.1) = false := by
  rw [hd.render_of_find?_eq_none _ rfl] at h
  change (if _ then _ else _ : Sql).Succeeds at h
  split at h
  · exact absurd h (Traced.not_succeeds_fail _)
  · rename_i hnone
    exact Bool.eq_false_iff.2 hnone

theorem not_lacksPlainForm (hd : n.Makes d) (hn : n ≠ .clickhouse) {node : Node Expr}
    (h : (d.render (.mk node)).Succeeds) : ¬ node.LacksPlainForm := by
  cases node with
  | literal value =>
    obtain ⟨text, htext⟩ := hd.exists_writeLiteral? hn h
    intro hnone
    rw [Node.LacksPlainForm, ← d.writeLiteral?_eq_none_iff, htext] at hnone
    cases hnone
  | quantile => exact fun _ => hd.not_succeeds hn (Or.inl rfl) h
  | varMap => exact fun _ => hd.not_succeeds hn (Or.inr (Or.inl rfl)) h
  | final => exact fun _ => hd.not_succeeds hn (Or.inr (Or.inr rfl)) h
  | _ => exact id

theorem not_namesElement (hd : DialectName.ansi.Makes d) {node : Node Expr}
    (h : (d.render (.mk node)).Succeeds) : ¬ node.NamesElement := by
  cases node with
  | struct elements surface =>
    have hnone := hd.isNamed_of_struct h
    rw [List.any_map, List.any_eq_false] at hnone
    rintro ⟨e, he, hkind⟩
    exact hnone e he (isNamed_iff.2 hkind)
  | _ => exact id

/-- What is written is no node that the dialect cannot write. -/
theorem not_cannotWrite (hd : n.Makes d) {e : Expr} (h : (d.render e).Succeeds) :
    ¬ n.CannotWrite e.node := by
  rw [← Expr.mk_node e] at h
  cases n with
  | ansi => exact fun hcannot =>
      hcannot.elim (hd.not_lacksPlainForm nofun h) (hd.not_namesElement h)
  | bigquery => exact hd.not_lacksPlainForm nofun h
  | clickhouse => exact id

/-- **What is written is written in all its parts**, and none of them is one that the dialect
cannot write. -/
theorem not_cannotWrite_of_hasPart (hd : n.Makes d) {e p : Expr} (h : (d.render e).Succeeds)
    (hp : e.HasPart p) : ¬ n.CannotWrite p.node := by
  by_cases hn : n = .clickhouse
  · subst hn
    exact id
  · refine hd.not_cannotWrite ?_
    induction hp with
    | self => exact h
    | child _ hc ih => exact hd.succeeds_of_mem_children hn ih _ hc

end DialectName.Makes

/-- **An expression is written exactly if it has no part, at any depth, that the dialect cannot
write**, and otherwise the error names the dialect and the kind of such a part. -/
theorem outcome_builtin_write (name : DialectName) (config? : Option Setting) (e : Expr) :
    match ((Dialect.builtin name config?).write e).outcome with
    | .ok _ => ∀ p, e.HasPart p → ¬ name.CannotWrite p.node
    | .error err =>
      ∃ p, e.HasPart p ∧ name.CannotWrite p.node ∧ err = .unsupported ⟨p.kind, name⟩ := by
  have hd := name.makes_builtin config?
  unfold Dialect.write
  rw [Traced.outcome_mapError]
  cases hrender : ((Dialect.builtin name config?).render e).outcome with
  | ok text => exact fun p hp => hd.not_cannotWrite_of_hasPart ⟨text, hrender⟩ hp
  | error u =>
    obtain ⟨p, hp, hcannot, rfl⟩ := hd.failsOnly_render e u hrender
    exact ⟨p, hp, hcannot, rfl⟩

end SqlDialects
