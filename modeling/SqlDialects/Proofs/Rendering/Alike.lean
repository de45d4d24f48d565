import SqlDialects.Proofs.Expr.Layer
import SqlDialects.Render.Node

/-!
# Children that no dialect tells apart

How a dialect writes a node depends on the children of the node, but on little
about them: their texts, how tightly they bind, and whether they are bound to
names.  Children that agree in these are alike, and a node whose children are
replaced by ones alike is written as it was.

This is what a change of an expression is measured by that is to leave its text
alone: it has to be looked at one node at a time only.
-/

namespace SqlDialects

/-- The elements of two lists in turn. -/
def interleave {α : Type} (xs ys : List α) : List α := (xs.zip ys).flatMap fun (x, y) => [x, y]

theorem map_interleave {α β : Type} (f : α → β) (xs ys : List α) :
    (interleave xs ys).map f = interleave (xs.map f) (ys.map f) := by
  unfold interleave
  rw [List.map_flatMap, List.zip_map, List.flatMap_map]
  rfl

theorem mem_of_mem_interleave {α : Type} {xs ys : List α} {a : α} (h : a ∈ interleave xs ys) :
    a ∈ xs ∨ a ∈ ys := by
  obtain ⟨⟨x, y⟩, hxy, ha⟩ := List.mem_flatMap.1 h
  obtain ⟨hx, hy⟩ := List.of_mem_zip hxy
  rcases List.mem_cons.1 ha with rfl | ha
  · exact Or.inl hx
  · obtain rfl := List.mem_singleton.1 ha
    exact Or.inr hy

namespace Render

/-- Children that no dialect tells apart. -/
structure Alike (a b : Child) : Prop where
  precedence : precedence? a.1 = precedence? b.1
  named : isNamed a.1 = isNamed b.1
  text : a.2 = b.2

variable {d : Dialect} {ε : Type} {f g : ε → Child}

theorem operand_congr {a b : Child} (h : Alike a b) (outer : Nat) (onRight : Bool) :
    operand a outer onRight = operand b outer onRight := by
  unfold operand needsBrackets
  rw [h.text, h.precedence]

section Lists

variable {l : List ε} (h : ∀ e ∈ l, Alike (f e) (g e))

include h

theorem texts_congr : (l.map f).map (·.2) = (l.map g).map (·.2) := by
  rw [List.map_map, List.map_map]
  exact List.map_congr_left fun e he => (h e he).text

theorem list_congr : list (l.map f) = list (l.map g) := by
  unfold list
  rw [texts_congr h]

theorem called_congr (word : String) : called word (l.map f) = called word (l.map g) := by
  unfold called
  rw [list_congr h]

theorem any_isNamed_congr : ((l.map f).any fun child => isNamed child.1) =
    (l.map g).any fun child => isNamed child.1 := by
  rw [List.any_map, List.any_map]
  induction l with
  | nil => rfl
  | cons e l ih =>
    have hrest := ih fun e' he' => h e' (List.mem_cons_of_mem e he')
    rw [List.any_cons, List.any_cons, hrest]
    exact congrArg (· || _) (h e List.mem_cons_self).named

end Lists

theorem clause_congr (words : String) {o : Option ε} (h : ∀ e ∈ o, Alike (f e) (g e)) :
    clause words (o.map f) = clause words (o.map g) := by
  cases o with
  | none => rfl
  | some e =>
    show (do return " " ++ words ++ " " ++ (← (f e).2)) = _
    rw [(h e rfl).text]
    rfl

theorem query_congr {q : Query ε} (h : ∀ e ∈ q.children, Alike (f e) (g e)) :
    query (q.map f) = query (q.map g) := by
  have hall := Query.all_iff.2 h
  have hprojections := list_congr (l := q.projections) hall.projections
  have hsource := clause_congr "FROM" hall.source
  have hfilter := clause_congr "WHERE" hall.filter
  have hgroupBy := texts_congr (l := q.groupBy) hall.groupBy
  have hhaving := clause_congr "HAVING" hall.having
  have horderBy :
      (q.orderBy.map (·.map f)).map sortKey = (q.orderBy.map (·.map g)).map sortKey := by
    rw [List.map_map, List.map_map]
    refine List.map_congr_left fun o ho => ?_
    have htext := (hall.orderBy o ho).text
    show sortKey ⟨f o.this, o.direction⟩ = sortKey ⟨g o.this, o.direction⟩
    unfold sortKey
    simp only [htext]
  have hlimit := clause_congr "LIMIT" hall.limit
  unfold query
  simp only [Query.map, hprojections, hsource, hfilter, hgroupBy, hhaving, horderBy, hlimit]
  rfl

section Nodes

variable {node : Node ε} (h : ∀ e ∈ node.children, Alike (f e) (g e))

include h

theorem plain_congr : plain d (node.map f) = plain d (node.map g) := by
  cases node with
  | identifier id => rfl
  | compound parts => rfl
  | literal value => rfl
  | star => rfl
  | binary left op right =>
    have hleft := h left List.mem_cons_self
    have hright := h right (List.mem_cons_of_mem _ List.mem_cons_self)
    simp only [Node.map, plain, operand_congr hleft, operand_congr hright]
  | unary op inner =>
    simp only [Node.map, plain, operand_congr (h inner List.mem_cons_self)]
  | paren inner => simp only [Node.map, plain, (h inner List.mem_cons_self).text]
  | tuple elements => exact called_congr h ""
  | aliased this name => simp only [Node.map, plain, (h this List.mem_cons_self).text]
  | call name args => exact called_congr h _
  | struct elements surface =>
    show (if ((elements.map f).any fun child => isNamed child.1) then _ else _) = _
    rw [any_isNamed_congr (l := elements) h, called_congr (l := elements) h]
    rfl
  | cast this target => simp only [Node.map, plain, (h this List.mem_cons_self).text]
  | approxDistinct this => exact called_congr (l := [this]) h _
  | anyValue this => exact called_congr (l := [this]) h _
  | quantile this level => rfl
  | regexpLike this pattern => exact called_congr (l := [this, pattern]) h _
  | varMap keys values => rfl
  | final table => rfl
  | subquery q =>
    show (do return "(" ++ (← query (q.map f)) ++ ")") = _
    rw [query_congr h]
    rfl
  | select q => exact query_congr h

theorem own_congr (r : Rendering) : own d r (node.map f) = own d r (node.map g) := by
  cases r with
  | renamed name =>
    cases node with
    | approxDistinct this => exact called_congr (l := [this]) h name
    | anyValue this => exact called_congr (l := [this]) h name
    | regexpLike this pattern => exact called_congr (l := [this, pattern]) h name
    | call _ args => exact called_congr h name
    | _ => exact plain_congr (d := d) h
  | fixed text => rfl
  | plain => exact plain_congr (d := d) h
  | unsupported =>
    show unsupported d (node.map f) = unsupported d (node.map g)
    unfold unsupported
    rw [Node.kind_map, Node.kind_map]
  | struct =>
    cases node with
    | struct elements surface => exact called_congr h "STRUCT"
    | _ => exact plain_congr (d := d) h
  | tuple =>
    cases node with
    | struct elements surface => exact called_congr h (tupleWord surface)
    | _ => exact plain_congr (d := d) h
  | quantile =>
    cases node with
    | quantile this level =>
      have hthis := (h this List.mem_cons_self).text
      have hlevel := (h level (List.mem_cons_of_mem _ List.mem_cons_self)).text
      simp only [Node.map, own, hthis, hlevel]
    | _ => exact plain_congr (d := d) h
  | map =>
    cases node with
    | varMap keys values =>
      have hcalled := called_congr (l := interleave keys values) (f := f) (g := g)
        (fun e he => h e (List.mem_append.2 (mem_of_mem_interleave he))) "map"
      rw [map_interleave, map_interleave] at hcalled
      exact hcalled
    | _ => exact plain_congr (d := d) h
  | final =>
    cases node with
    | final table => simp only [Node.map, own, (h table List.mem_cons_self).text]
    | _ => exact plain_congr (d := d) h
  | literal =>
    cases node with
    | literal value => rfl
    | _ => exact plain_congr (d := d) h

/-- **A node is written alike if its children are alike.** -/
theorem node_congr : Render.node d (node.map f) = Render.node d (node.map g) := by
  unfold Render.node
  rw [Node.kind_map, Node.kind_map]
  split
  · rw [own_congr h]
  · exact plain_congr h

end Nodes

end Render
end SqlDialects
