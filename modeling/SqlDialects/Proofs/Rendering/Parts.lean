import SqlDialects.Proofs.Dialect.Assembled
import SqlDialects.Proofs.Expr.Layer
import SqlDialects.Render.Node

/-!
# What is written is written in all its parts

A node is written in the plain way, unless the dialect has a way of its own for nodes
of its kind.

A dialect that cannot write some part of an expression cannot write the expression:
there is no way around a part.  Here this is shown for the two dialects that write
nearly everything in the plain way; ClickHouse can write whatever can be read, so of
it nobody needs to ask.
-/

namespace SqlDialects

/-! ## Computations that end in a value -/

namespace Traced

variable {ε α β : Type}

/-- The computation ends in a value. -/
def Succeeds (x : Traced ε α) : Prop := ∃ a, x.outcome = .ok a

/-- If a sequence ends in a value, so did its first computation. -/
theorem Succeeds.bind_inv {x : Traced ε α} {next : α → Traced ε β} (h : (x >>= next).Succeeds) :
    ∃ a, x.outcome = .ok a ∧ (next a).Succeeds := by
  obtain ⟨b, hb⟩ := h
  rw [outcome_bind] at hb
  cases hx : x.outcome with
  | error failure =>
    rw [hx] at hb
    cases hb
  | ok a =>
    rw [hx] at hb
    exact ⟨a, rfl, b, hb⟩

theorem Succeeds.of_bind {x : Traced ε α} {next : α → Traced ε β} (h : (x >>= next).Succeeds) :
    x.Succeeds := by
  obtain ⟨a, ha, -⟩ := h.bind_inv
  exact ⟨a, ha⟩

theorem Succeeds.of_all {xs : List (Traced ε α)} (h : (Traced.all xs).Succeeds) :
    ∀ x ∈ xs, x.Succeeds := by
  induction xs with
  | nil => exact nofun
  | cons x xs ih =>
    obtain ⟨a, ha, hrest⟩ := h.bind_inv
    intro y hy
    rcases List.mem_cons.1 hy with rfl | hy
    · exact ⟨a, ha⟩
    · exact ih hrest.of_bind y hy

theorem not_succeeds_fail (e : ε) : ¬ (fail e : Traced ε α).Succeeds := by
  rintro ⟨a, ha⟩
  cases ha

end Traced

/-! ## The way in which a node is written -/

namespace Render

variable {d : Dialect}

theorem node_eq_plain {node : Node Child} (h : d.renderings.find? node.kind = none) :
    Render.node d node = plain d node := by
  unfold Render.node
  rw [h]

theorem outcome_node_own {node : Node Child} {r : Rendering}
    (h : d.renderings.find? node.kind = some r) :
    (Render.node d node).outcome = (own d r node).outcome := by
  unfold Render.node
  rw [h]
  show (Traced.note _ >>= fun _ => own d r node).outcome = _
  rw [Traced.outcome_bind]
  rfl

end Render

/-- Whether every dialect writes a kind in the plain way. -/
def Kind.isPlain : Kind → Bool
  | literal | struct | approxDistinct | anyValue | quantile | regexpLike | varMap | final => false
  | _ => true

namespace DialectName.Makes

variable {n : DialectName} {d : Dialect}

/-- A node that the dialect has a way of its own for is written in it. -/
theorem outcome_render_own (hd : n.Makes d) (node : Node Expr) {r : Rendering}
    (h : n.draft.renderings.find? node.kind = some r) :
    (d.render (.mk node)).outcome =
      (Render.own d r (node.map fun e => (e, d.render e))).outcome := by
  rw [Dialect.render_mk, Render.outcome_node_own]
  rw [Node.kind_map, hd.renderings, h]

/-- A node that the dialect has no way of its own for is written in the plain way. -/
theorem render_of_find?_eq_none (hd : n.Makes d) (node : Node Expr)
    (h : n.draft.renderings.find? node.kind = none) :
    d.render (.mk node) = Render.plain d (node.map fun e => (e, d.render e)) := by
  rw [Dialect.render_mk, Render.node_eq_plain]
  rw [Node.kind_map, hd.renderings, h]

theorem render_plain (hd : n.Makes d) (node : Node Expr) (h : node.kind.isPlain = true) :
    d.render (.mk node) = Render.plain d (node.map fun e => (e, d.render e)) := by
  have hall : ∀ kind ∈ Kind.all, kind.isPlain = true → n.draft.renderings.find? kind = none := by
    cases n <;> decide
  exact hd.render_of_find?_eq_none node (hall node.kind node.kind.mem_all h)

end DialectName.Makes

/-! ## Nodes -/

namespace Render

variable {d : Dialect}

theorem succeeds_of_operand {child : Child} {outer : Nat} {onRight : Bool}
    (h : (operand child outer onRight).Succeeds) : child.2.Succeeds :=
  h.of_bind

theorem succeeds_of_list {children : List Child} (h : (list children).Succeeds) :
    ∀ c ∈ children, c.2.Succeeds :=
  fun c hc => h.of_bind.of_all c.2 (List.mem_map_of_mem hc)

theorem succeeds_of_called {word : String} {args : List Child}
    (h : (called word args).Succeeds) : ∀ c ∈ args, c.2.Succeeds :=
  succeeds_of_list h.of_bind

theorem succeeds_of_clause {words : String} {o : Option Child} (h : (clause words o).Succeeds) :
    ∀ c ∈ o, c.2.Succeeds := by
  intro c hc
  cases hc
  exact h.of_bind

theorem succeeds_of_clauseList {words : String} {texts : List Sql}
    (h : (clauseList words texts).Succeeds) : ∀ x ∈ texts, x.Succeeds := by
  cases texts with
  | nil => exact nofun
  | cons x texts => exact h.of_bind.of_all

/-- A query is written only if all its parts are. -/
theorem succeeds_of_query {q : Query Child} (h : (query q).Succeeds) :
    ∀ c ∈ q.children, c.2.Succeeds := by
  obtain ⟨_, hprojections, h⟩ := h.bind_inv
  obtain ⟨_, hsource, h⟩ := h.bind_inv
  obtain ⟨_, hfilter, h⟩ := h.bind_inv
  obtain ⟨_, hgroupBy, h⟩ := h.bind_inv
  obtain ⟨_, hhaving, h⟩ := h.bind_inv
  obtain ⟨_, horderBy, h⟩ := h.bind_inv
  obtain ⟨_, hlimit, -⟩ := h.bind_inv
  exact Query.all_iff.1
    { projections := succeeds_of_list ⟨_, hprojections⟩
      source := succeeds_of_clause ⟨_, hsource⟩
      filter := succeeds_of_clause ⟨_, hfilter⟩
      groupBy := fun c hc => succeeds_of_clauseList ⟨_, hgroupBy⟩ c.2 (List.mem_map_of_mem hc)
      having := succeeds_of_clause ⟨_, hhaving⟩
      orderBy := fun key hkey =>
        (succeeds_of_clauseList ⟨_, horderBy⟩ _ (List.mem_map_of_mem hkey)).of_bind
      limit := succeeds_of_clause ⟨_, hlimit⟩ }

/-- A node is written in the plain way only if all its children are written. -/
theorem succeeds_of_plain {node : Node Child} (h : (plain d node).Succeeds) :
    ∀ c ∈ node.children, c.2.Succeeds := by
  cases node with
  | identifier | compound | literal | star => exact nofun
  | binary left op right =>
    obtain ⟨_, hleft, h⟩ := h.bind_inv
    intro c hc
    rcases List.mem_cons.1 hc with rfl | hc
    · exact succeeds_of_operand ⟨_, hleft⟩
    · exact List.mem_singleton.1 hc ▸ succeeds_of_operand h.of_bind
  | unary op inner =>
    intro c hc
    exact List.mem_singleton.1 hc ▸ succeeds_of_operand h.of_bind
  | paren inner | aliased inner name | cast inner target =>
    intro c hc
    exact List.mem_singleton.1 hc ▸ h.of_bind
  | tuple args | call name args | approxDistinct this | anyValue this | regexpLike this pattern =>
    exact succeeds_of_called h
  | struct elements surface =>
    change (if _ then _ else _ : Sql).Succeeds at h
    split at h
    · exact absurd h (Traced.not_succeeds_fail _)
    · exact succeeds_of_called h
  | quantile | varMap | final => exact absurd h (Traced.not_succeeds_fail _)
  | subquery q => exact succeeds_of_query h.of_bind
  | select q => exact succeeds_of_query h

end Render

/-- **A node is written only if its children are**, unless the dialect is ClickHouse. -/
theorem DialectName.Makes.succeeds_of_mem_children {n : DialectName} {d : Dialect} (hd : n.Makes d)
    (hn : n ≠ .clickhouse) {e : Expr} (h : (d.render e).Succeeds) :
    ∀ c ∈ e.children, (d.render c).Succeeds := by
  obtain ⟨node⟩ := e
  have hnode : ∀ c ∈ (node.map fun e => (e, d.render e)).children, c.2.Succeeds := by
    rw [Dialect.render_mk] at h
    unfold Render.node at h
    rw [hd.renderings, Node.kind_map] at h
    cases n with
    | clickhouse => exact absurd rfl hn
    | ansi => exact Render.succeeds_of_plain h
    | bigquery =>
      cases node with
      | struct elements surface =>
        obtain ⟨_, -, h⟩ := Traced.Succeeds.bind_inv h
        exact Render.succeeds_of_called h
      | _ => exact Render.succeeds_of_plain h
  intro c hc
  rw [Node.children_map] at hnode
  exact hnode (c, d.render c) (List.mem_map_of_mem hc)

end SqlDialects
