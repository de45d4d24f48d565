import SqlDialects.Expr.Tree

/-!
# Changing an expression layer by layer

A change of expressions that works on one node at a time is `Expr.mapNodes` of what
it does to a node.  It cannot lose, move or regroup anything of its own accord: the
children of a node are those that there were, each changed.

What is said of all children of a node is long to say of a query, with its seven
clauses; `Query.All` says it clause by clause.
-/

namespace SqlDialects

/-! ## Queries -/

/-- All parts of a query have a property. -/
structure Query.All {α : Type} (P : α → Prop) (q : Query α) : Prop where
  projections : ∀ a ∈ q.projections, P a
  source : ∀ a ∈ q.source, P a
  filter : ∀ a ∈ q.filter, P a
  groupBy : ∀ a ∈ q.groupBy, P a
  having : ∀ a ∈ q.having, P a
  orderBy : ∀ o ∈ q.orderBy, P o.this
  limit : ∀ a ∈ q.limit, P a

/-- The parts of a query are its children as a node. -/
theorem Query.all_iff {α : Type} {P : α → Prop} {q : Query α} :
    q.All P ↔ ∀ a ∈ q.children, P a := by
  simp only [children, List.mem_append, List.mem_map, Option.mem_toList]
  constructor
  · rintro h a ((((((ha | ha) | ha) | ha) | ha) | ⟨o, ho, rfl⟩) | ha)
    · exact h.projections a ha
    · exact h.source a ha
    · exact h.filter a ha
    · exact h.groupBy a ha
    · exact h.having a ha
    · exact h.orderBy o ho
    · exact h.limit a ha
  · intro h
    exact
      { projections := fun a ha => h a (Or.inl (Or.inl (Or.inl (Or.inl (Or.inl (Or.inl ha))))))
        source := fun a ha => h a (Or.inl (Or.inl (Or.inl (Or.inl (Or.inl (Or.inr ha))))))
        filter := fun a ha => h a (Or.inl (Or.inl (Or.inl (Or.inl (Or.inr ha)))))
        groupBy := fun a ha => h a (Or.inl (Or.inl (Or.inl (Or.inr ha))))
        having := fun a ha => h a (Or.inl (Or.inl (Or.inr ha)))
        orderBy := fun o ho => h o.this (Or.inl (Or.inr ⟨o, ho, rfl⟩))
        limit := fun a ha => h a (Or.inr ha) }

theorem Query.map_map {α β γ : Type} (q : Query α) (f : α → β) (g : β → γ) :
    (q.map f).map g = q.map (g ∘ f) := by
  simp [Query.map, Ordered.map, Function.comp_def]

theorem Query.map_id {α : Type} (q : Query α) : q.map id = q := by
  simp [Query.map, Ordered.map]

/-! ## Nodes -/

/-- Two changes of the children of a node are one. -/
theorem Node.map_map {α β γ : Type} (n : Node α) (f : α → β) (g : β → γ) :
    (n.map f).map g = n.map (g ∘ f) := by
  cases n <;> simp [Node.map, Query.map_map]

theorem Node.map_id {α : Type} (n : Node α) : n.map id = n := by
  cases n <;> simp [Node.map, Query.map_id]

/-! ## Expressions -/

namespace Expr

/-- The expression with every node changed, children first. -/
def mapNodes (f : Node Expr → Node Expr) : Expr → Expr :=
  fold fun n => .mk (f (n.map (·.2)))

theorem mapNodes_mk (f : Node Expr → Node Expr) (n : Node Expr) :
    mapNodes f (.mk n) = .mk (f (n.map (mapNodes f))) := by
  rw [mapNodes, fold_mk, Node.map_map]
  rfl

end Expr

end SqlDialects
