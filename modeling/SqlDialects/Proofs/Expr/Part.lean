import SqlDialects.Proofs.Expr.Layer

/-!
# The parts of an expression

`e.HasPart p` says that `p` stands somewhere in `e`, at whatever depth.

Some forms have their place in a statement: a name is bound in the list of a
`SELECT` but not under an operator, a table is merged behind `FROM` and nowhere
else.  Such rules are not about an expression but about the way to it, so
`e.Holds role p` says more: that `p` is a part of `e` and has this role there.
Every part has a role, and possibly several, since one expression may occur more
than once (`hasPart_iff`).
-/

namespace SqlDialects

namespace Expr

/-- Some part of an expression, at any depth, itself included. -/
inductive HasPart (e : Expr) : Expr → Prop where
  | self : HasPart e e
  | child {p c : Expr} (hp : HasPart e p) (hc : c ∈ p.children) : HasPart e c

theorem HasPart.trans {e p q : Expr} (hp : e.HasPart p) (hq : p.HasPart q) : e.HasPart q := by
  induction hq with
  | self => exact hp
  | child _ hc ih => exact ih.child hc

theorem HasPart.of_mem_children {n : Node Expr} {c p : Expr} (hc : c ∈ n.children)
    (hp : c.HasPart p) : (mk n).HasPart p :=
  (HasPart.self.child hc).trans hp

end Expr

/-! ## Roles -/

/-- What a part is to what it stands in. -/
inductive Role where
  /-- A statement of its own. -/
  | statement
  /-- What a `SELECT` lists. -/
  | projection
  /-- What a `SELECT` reads from, down through table modifiers. -/
  | source
  /-- Something in a structure. -/
  | element
  /-- Anything else. -/
  | inner
  deriving DecidableEq, Repr

/-- The children of a query, each in its role. -/
def Query.parts {ε : Type} (q : Query ε) : List (Role × ε) :=
  q.projections.map (Prod.mk .projection) ++ q.source.toList.map (Prod.mk .source) ++
    (q.filter.toList ++ q.groupBy ++ q.having.toList ++ q.orderBy.map (·.this) ++
      q.limit.toList).map (Prod.mk .inner)

/-- The children of a node that has itself a role, each in its own. -/
def Node.parts {ε : Type} (here : Role) : Node ε → List (Role × ε)
  | struct elements _ => elements.map (Prod.mk .element)
  | final table => [(if here = .source then .source else .inner, table)]
  | subquery query => query.parts
  | select query => query.parts
  | n => n.children.map (Prod.mk .inner)

theorem Query.map_snd_parts {ε : Type} (q : Query ε) : q.parts.map (·.2) = q.children := by
  simp [parts, children, Function.comp_def]

/-- The parts of a node are its children. -/
theorem Node.map_snd_parts {ε : Type} (here : Role) (n : Node ε) :
    (n.parts here).map (·.2) = n.children := by
  cases n with
  | subquery q => exact q.map_snd_parts
  | select q => exact q.map_snd_parts
  | final table => rfl
  | struct elements surface => simp [parts, children, Function.comp_def]
  | _ => simp [parts, Function.comp_def]

namespace Expr

/-- A part of a statement, at any depth, in a role that it has there. -/
inductive Holds (e : Expr) : Role → Expr → Prop where
  | self : Holds e .statement e
  | part {here role : Role} {p c : Expr} (hp : Holds e here p)
    (hc : (role, c) ∈ p.node.parts here) : Holds e role c

/-- **Every part of a statement has a role in it.** -/
theorem hasPart_iff {e p : Expr} : e.HasPart p ↔ ∃ role, e.Holds role p := by
  constructor
  · intro h
    induction h with
    | self => exact ⟨.statement, .self⟩
    | child _ hc ih =>
      obtain ⟨here, hp⟩ := ih
      rw [children, ← Node.map_snd_parts here] at hc
      obtain ⟨⟨role, c⟩, hmem, rfl⟩ := List.mem_map.1 hc
      exact ⟨role, hp.part hmem⟩
  · rintro ⟨role, h⟩
    induction h with
    | self => exact .self
    | @part here role p c _ hc ih =>
      refine ih.child ?_
      rw [children, ← Node.map_snd_parts here]
      exact List.mem_map.2 ⟨_, hc, rfl⟩

end Expr

end SqlDialects
