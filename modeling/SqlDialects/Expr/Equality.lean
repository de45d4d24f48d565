import SqlDialects.Expr.Tree

/-!
# Equality of expressions

Two expressions are equal when their outermost layers have the same shape and
their children are equal in turn.  That a layer is settled by its shape and its
children is a fact about nodes alone; the rest is a fold.
-/

namespace SqlDialects

variable {ε : Type}

/-- The lists agree in length if they agree once every entry is forgotten. -/
private theorem length_eq_of_forget {xs ys : List ε}
    (h : xs.map (fun _ => ()) = ys.map fun _ => ()) : xs.length = ys.length := by
  simpa using congrArg List.length h

private theorem length_toList_eq_of_forget {x y : Option ε}
    (h : x.map (fun _ => ()) = y.map fun _ => ()) : x.toList.length = y.toList.length := by
  cases x <;> cases y <;> simp_all

private theorem eq_of_toList_eq {x y : Option ε} (h : x.toList = y.toList) : x = y := by
  cases x <;> cases y <;> simp_all

private theorem ordered_eq {xs ys : List (Ordered ε)}
    (hd : xs.map (Ordered.map fun _ => ()) = ys.map (Ordered.map fun _ => ()))
    (ht : xs.map (·.this) = ys.map (·.this)) : xs = ys := by
  induction xs generalizing ys with
  | nil => cases ys <;> simp_all
  | cons x xs ih =>
    cases ys with
    | nil => simp at hd
    | cons y ys =>
      simp only [List.map_cons, List.cons.injEq] at hd ht
      obtain ⟨x, dx⟩ := x
      obtain ⟨y, dy⟩ := y
      simp only [Ordered.map, Ordered.mk.injEq, true_and] at hd ht
      obtain ⟨rfl, hd⟩ := hd
      obtain ⟨rfl, ht⟩ := ht
      rw [ih hd ht]

/-- A query is settled by its shape and its expressions. -/
theorem Query.eq_of_children {q r : Query ε} (hs : q.map (fun _ => ()) = r.map fun _ => ())
    (hc : q.children = r.children) : q = r := by
  obtain ⟨d, p, s, f, g, h, o, l⟩ := q
  obtain ⟨d', p', s', f', g', h', o', l'⟩ := r
  simp only [Query.map, Query.mk.injEq] at hs
  obtain ⟨rfl, hp, hs, hf, hg, hh, ho, hl⟩ := hs
  have hp := length_eq_of_forget hp
  have hs := length_toList_eq_of_forget hs
  have hf := length_toList_eq_of_forget hf
  have hg := length_eq_of_forget hg
  have hh := length_toList_eq_of_forget hh
  have hol : o.length = o'.length := by simpa using congrArg List.length ho
  simp only [Query.children] at hc
  obtain ⟨hc, el⟩ := List.append_inj hc (by simp [hp, hs, hf, hg, hh, hol])
  obtain ⟨hc, eo⟩ := List.append_inj hc (by simp [hp, hs, hf, hg, hh])
  obtain ⟨hc, eh⟩ := List.append_inj hc (by simp [hp, hs, hf, hg])
  obtain ⟨hc, eg⟩ := List.append_inj hc (by simp [hp, hs, hf])
  obtain ⟨hc, ef⟩ := List.append_inj hc (by simp [hp, hs])
  obtain ⟨ep, es⟩ := List.append_inj hc hp
  rw [ep, eq_of_toList_eq es, eq_of_toList_eq ef, eg, eq_of_toList_eq eh, ordered_eq ho eo,
    eq_of_toList_eq el]

/-- A node is settled by its shape and its children. -/
theorem Node.eq_of_children {n m : Node ε} (hs : n.shape = m.shape)
    (hc : n.children = m.children) : n = m := by
  cases n <;> cases m <;> simp only [shape, map, reduceCtorEq] at hs <;>
    simp only [children, List.cons.injEq, and_true] at hc
  case varMap.varMap =>
    simp only [varMap.injEq] at hs ⊢
    exact List.append_inj hc (length_eq_of_forget hs.1)
  case subquery.subquery => rw [Query.eq_of_children (subquery.inj hs) hc]
  case select.select => rw [Query.eq_of_children (select.inj hs) hc]
  all_goals simp_all

namespace Expr

/-- Whether two expressions are equal, from the answers for the children of the first. -/
def sameNode (n : Node (Expr × (Expr → Bool))) (other : Expr) : Bool :=
  n.shape == other.node.shape &&
    (n.children.length == other.children.length &&
      (n.children.zip other.children).all fun (known, child) => known.2 child)

/-- Whether two expressions are equal. -/
def same (e : Expr) : Expr → Bool := e.fold sameNode

private theorem all_zip_iff {xs : List Expr} (ys : List Expr)
    (h : ∀ x ∈ xs, ∀ y, x.same y = true ↔ x = y) :
    (xs.length = ys.length ∧ ∀ x ∈ xs.zip ys, x.1.same x.2 = true) ↔ xs = ys := by
  induction xs generalizing ys with
  | nil => cases ys <;> simp
  | cons x xs ih =>
    cases ys with
    | nil => simp
    | cons y ys =>
      have ih := ih ys fun z hz => h z (by simp [hz])
      simp only [List.length_cons, List.zip_cons_cons, List.mem_cons, forall_eq_or_imp,
        h x (by simp), List.cons.injEq, ← ih]
      grind

theorem same_iff (e f : Expr) : e.same f = true ↔ e = f := by
  induction e using induction generalizing f with
  | step n ih =>
    obtain ⟨m⟩ := f
    have hz := all_zip_iff m.children ih
    rw [same, fold_mk]
    simp only [sameNode, Node.shape, Node.children_map, List.length_map, Bool.and_eq_true,
      beq_iff_eq, List.all_eq_true, node_mk, children]
    have hshape : (n.map (withFold sameNode)).map (fun _ => ()) = n.shape := by
      cases n <;> simp [Node.shape, Node.map, Query.map, Ordered.map, Function.comp_def]
    rw [hshape, List.zip_map_left]
    simp only [List.mem_map, Prod.map]
    constructor
    · rintro ⟨hs, hl, hall⟩
      have hc := hz.1 ⟨hl, fun x hx => hall _ ⟨x, hx, rfl⟩⟩
      rw [Node.eq_of_children hs hc]
    · intro h
      obtain rfl := Expr.mk.inj h
      refine ⟨rfl, rfl, ?_⟩
      rintro _ ⟨x, hx, rfl⟩
      exact (hz.2 rfl).2 x hx

instance : DecidableEq Expr := fun e f => decidable_of_iff _ (same_iff e f)

end Expr

end SqlDialects
