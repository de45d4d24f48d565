import SqlDialects.Proofs.RoundTrip.Statement

/-!
# Operands without brackets

An expression that was put together by hand need not be one that can be read: a
product of sums has no brackets of its own.  The brackets come in when the
expression is written, around each operand that binds too loosely for its place.

So the text is also that of another expression, which has these brackets as nodes
(`Expr.bracketOperands`).  That one is readable, and comes back.  Brackets mean
nothing, nor do the quotes of a name or the case of a call; what an expression is
apart from these is its essence, and the essence survives.
-/

namespace SqlDialects

variable {n : DialectName} {d : Dialect}

/-! ## Adding the brackets -/

namespace Expr

/-- An operand, with brackets as a node if it needs them. -/
def underOperator (e : Expr) (outer : Nat) (onRight : Bool) : Expr :=
  if Render.needsBrackets e outer onRight then .paren e else e

/-- An operand that has its brackets needs no others. -/
theorem needsBrackets_underOperator (e : Expr) (outer : Nat) (onRight : Bool) :
    Render.needsBrackets (e.underOperator outer onRight) outer onRight = false := by
  unfold underOperator
  by_cases h : Render.needsBrackets e outer onRight = true
  · rw [if_pos h]
    rfl
  · rw [if_neg h]
    exact Bool.eq_false_iff.2 h

end Expr

/-- The node with brackets around the operands that need them. -/
def Node.bracketOperands : Node Expr → Node Expr
  | .binary left op right =>
    .binary (left.underOperator op.precedence false) op (right.underOperator op.precedence true)
  | .unary op operand => .unary op (operand.underOperator op.precedence false)
  | node => node

namespace Expr

/-- The expression with brackets around the operands that need them. -/
def bracketOperands : Expr → Expr := mapNodes Node.bracketOperands

theorem bracketOperands_mk (node : Node Expr) :
    bracketOperands (.mk node) = .mk (node.map bracketOperands).bracketOperands :=
  mapNodes_mk Node.bracketOperands node

theorem precedence?_bracketOperands (e : Expr) :
    Render.precedence? e.bracketOperands = Render.precedence? e := by
  obtain ⟨node⟩ := e
  rw [bracketOperands_mk]
  cases node <;> rfl

theorem isNamed_bracketOperands (e : Expr) :
    Render.isNamed e.bracketOperands = Render.isNamed e := by
  obtain ⟨node⟩ := e
  rw [bracketOperands_mk]
  cases node <;> rfl

end Expr

/-! ## The text stays -/

/-- An operand is written alike whether its brackets come with it or not. -/
theorem DialectName.Makes.operand_underOperator (hd : n.Makes d) (e : Expr) (outer : Nat)
    (onRight : Bool) :
    Render.operand (e.underOperator outer onRight, d.render (e.underOperator outer onRight)) outer
      onRight = Render.operand (e, d.render e) outer onRight := by
  have hnone := e.needsBrackets_underOperator outer onRight
  unfold Render.operand
  rw [hnone]
  unfold Expr.underOperator
  by_cases h : Render.needsBrackets e outer onRight = true
  · rw [if_pos h, h, hd.render_plain _ rfl]
    show (d.render e >>= fun text => pure ("(" ++ text ++ ")")) >>= (fun text => pure text) = _
    generalize d.render e = sql
    obtain ⟨notes, outcome⟩ := sql
    cases outcome with
    | error failure => rfl
    | ok text =>
      show Traced.mk ((notes ++ []) ++ []) _ = Traced.mk (notes ++ []) _
      rw [List.append_nil]
      rfl
  · rw [if_neg h, Bool.eq_false_iff.2 h]

theorem DialectName.Makes.node_bracketOperands (hd : n.Makes d) (node : Node Expr) :
    d.render (.mk node.bracketOperands) = d.render (.mk node) := by
  cases node with
  | binary left op right =>
    rw [hd.render_plain _ rfl, hd.render_plain _ rfl]
    simp only [Node.bracketOperands, Node.map, Render.plain, hd.operand_underOperator]
  | unary op operand =>
    rw [hd.render_plain _ rfl, hd.render_plain _ rfl]
    simp only [Node.bracketOperands, Node.map, Render.plain, hd.operand_underOperator]
  | _ => rfl

/-- **Brackets that are needed make no difference to the text**: they are written in any case. -/
theorem DialectName.Makes.render_bracketOperands (hd : n.Makes d) (e : Expr) :
    d.render e.bracketOperands = d.render e := by
  induction e using Expr.induction with
  | step node ih =>
    rw [Expr.bracketOperands_mk, hd.node_bracketOperands, Dialect.render_mk, Node.map_map,
      Dialect.render_mk]
    exact Render.node_congr fun c hc =>
      ⟨c.precedence?_bracketOperands, c.isNamed_bracketOperands, ih c hc⟩

/-! ## What is left without brackets -/

/-- A node without what makes no difference: brackets, the quotes of names, the case of calls. -/
def Node.essence : Node Expr → Expr
  | .paren inner => inner
  | .identifier id => .identifier { id with quoted := false }
  | .compound parts => .compound (parts.map fun id => { id with quoted := false })
  | .aliased this name => .aliased this { name with quoted := false }
  | .call name args => .call name.toUpper args
  | node => .mk node

/-- An expression without any brackets, without the quotes of names and the case of calls.  Two
expressions of one essence are the same but for these. -/
def Expr.essence : Expr → Expr := Expr.fold fun node => (node.map (·.2)).essence

theorem Expr.essence_mk (node : Node Expr) :
    Expr.essence (.mk node) = (node.map Expr.essence).essence := by
  rw [essence, fold_mk, Node.map_map]
  rfl

/-! ## Trees of operators -/

/-- A tree of operators over names, literals, tuples and plain calls, nested in any way. -/
inductive OperatorTree (d : Dialect) : Expr → Prop where
  | identifier (id : Identifier) : OperatorTree d (.identifier id)
  | compound {parts : List Identifier} (hparts : 2 ≤ parts.length) :
    OperatorTree d (.compound parts)
  | number {text : String} (htext : Lexical.isNumeral text.toList = true) :
    OperatorTree d (.literal (.number text))
  | string (value : String) : OperatorTree d (.literal (.string value))
  | boolean (value : Bool) : OperatorTree d (.literal (.boolean value))
  | null : OperatorTree d (.literal .null)
  | star : OperatorTree d .star
  | binary {left right : Expr} (hleft : OperatorTree d left) (op : BinaryOperator)
    (hright : OperatorTree d right) : OperatorTree d (.binary left op right)
  | unary (op : UnaryOperator) {operand : Expr} (hoperand : OperatorTree d operand) :
    OperatorTree d (.unary op operand)
  | paren {inner : Expr} (hinner : OperatorTree d inner) : OperatorTree d (.paren inner)
  | tuple {elements : List Expr} (helements : ∀ e ∈ elements, OperatorTree d e)
    (hlength : elements.length ≠ 1) : OperatorTree d (.tuple elements)
  | call {name : String} {args : List Expr} (hname : Text.isPlainName name = true)
    (hreserved : d.isReserved name = false)
    (hcallSyntax : d.callSyntaxes.binds name.toUpper = false)
    (hbuilder : d.callBuilders.binds name.toUpper = false)
    (hargs : ∀ e ∈ args, OperatorTree d e) : OperatorTree d (.call name args)

namespace OperatorTree

/-- **With its brackets, a tree of operators is readable.** -/
theorem readable_bracketOperands (hd : n.Makes d) (P : String → Prop) {e : Expr}
    (h : OperatorTree d e) : Readable n P .operand e.bracketOperands := by
  have hwrap : ∀ {e : Expr} (outer : Nat) (onRight : Bool), Readable n P .operand e →
      Readable n P .operand (e.underOperator outer onRight) := by
    intro e outer onRight he
    unfold Expr.underOperator
    split
    · exact .paren he
    · exact he
  induction h with
  | identifier id => exact .source (.identifier id)
  | compound hparts => exact .source (.compound hparts)
  | number htext => exact .literal htext
  | string value => exact .literal trivial
  | boolean value => exact .literal trivial
  | null => exact .literal trivial
  | star => exact .star
  | binary _ op _ ihleft ihright =>
    exact .binary (hwrap _ _ ihleft) (hwrap _ _ ihright) (Expr.needsBrackets_underOperator _ _ _)
      (Expr.needsBrackets_underOperator _ _ _)
  | unary op _ ih => exact .unary (hwrap _ _ ih) (Expr.needsBrackets_underOperator _ _ _)
  | paren _ ih => exact .paren ih
  | tuple _ hlength ih =>
    rw [Expr.bracketOperands_mk]
    refine .tuple (fun e he => ?_) (by rwa [List.length_map])
    obtain ⟨inner, hinner, rfl⟩ := List.mem_map.1 he
    exact ih inner hinner
  | call hname hreserved hcallSyntax hbuilder _ ih =>
    rw [Expr.bracketOperands_mk]
    have hplain := And.intro (Table.find?_of_binds_eq_false hcallSyntax)
      (Table.find?_of_binds_eq_false hbuilder)
    rw [hd.isReserved] at hreserved
    rw [hd.callSyntaxes, hd.callBuilders] at hplain
    refine .call ⟨Text.isWord_of_isPlainName hname, hreserved, Or.inl hplain⟩ fun e he => ?_
    obtain ⟨inner, hinner, rfl⟩ := List.mem_map.1 he
    exact ih inner hinner

/-- Neither adding brackets nor choosing the canonical form changes anything that matters. -/
theorem essence_canon_bracketOperands {e : Expr} (h : OperatorTree d e) :
    (d.canon e.bracketOperands).essence = e.essence := by
  have hwrap : ∀ (e : Expr) (outer : Nat) (onRight : Bool),
      (d.canon (e.underOperator outer onRight)).essence = (d.canon e).essence := by
    intro e outer onRight
    unfold Expr.underOperator
    split
    · rw [Dialect.canon_mk, Expr.essence_mk]
      rfl
    · rfl
  have hlist : ∀ {es : List Expr}, (∀ e ∈ es, (d.canon e.bracketOperands).essence = e.essence) →
      ((es.map Expr.bracketOperands).map d.canon).map Expr.essence = es.map Expr.essence := by
    intro es hes
    rw [List.map_map, List.map_map]
    exact List.map_congr_left hes
  induction h with
  | identifier | number | string | boolean | null | star =>
    rw [Expr.bracketOperands_mk, Dialect.canon_mk, Expr.essence_mk, Expr.essence_mk]
    rfl
  | compound =>
    rw [Expr.bracketOperands_mk, Dialect.canon_mk, Expr.essence_mk, Expr.essence_mk]
    simp only [Node.map, Node.bracketOperands, Dialect.canonNode, Dialect.canonIdentifier,
      Node.essence, List.map_map, Function.comp_def]
  | binary _ op _ ihleft ihright =>
    rw [Expr.bracketOperands_mk, Dialect.canon_mk, Expr.essence_mk, Expr.essence_mk]
    simp only [Node.map, Node.bracketOperands, Dialect.canonNode, hwrap, ihleft, ihright]
  | unary op _ ih =>
    rw [Expr.bracketOperands_mk, Dialect.canon_mk, Expr.essence_mk, Expr.essence_mk]
    simp only [Node.map, Node.bracketOperands, Dialect.canonNode, hwrap, ih]
  | paren _ ih =>
    rw [Expr.bracketOperands_mk, Dialect.canon_mk, Expr.essence_mk, Expr.essence_mk]
    exact ih
  | tuple _ _ ih =>
    rw [Expr.bracketOperands_mk, Dialect.canon_mk, Expr.essence_mk, Expr.essence_mk]
    exact congrArg Expr.tuple (hlist ih)
  | @call name _ _ _ _ _ _ ih =>
    rw [Expr.bracketOperands_mk, Dialect.canon_mk, Expr.essence_mk, Expr.essence_mk]
    show Expr.call (d.style.callCase.apply name).toUpper _ = Expr.call name.toUpper _
    rw [Text.toUpper_apply, hlist ih]

end OperatorTree

/-- **A tree of operators comes back as the same tree**, but for brackets, quotes of names and the
case of calls. -/
theorem parseOne_write_operatorTree (name : DialectName) (config? : Option Setting) {e : Expr}
    (h : OperatorTree (Dialect.builtin name config?) e) :
    ∃ s e', ((Dialect.builtin name config?).write e).outcome = .ok s ∧
      ((Dialect.builtin name config?).parseOne s).outcome = .ok e' ∧ e'.essence = e.essence := by
  have hd := name.makes_builtin config?
  have hreadable := h.readable_bracketOperands hd name.SpellsType
  obtain ⟨s, hwrite, hparse⟩ := exists_write_parseOne hd (Or.inr (.element hreadable))
  refine ⟨s, _, ?_, hparse, h.essence_canon_bracketOperands⟩
  rw [Dialect.outcome_write_eq_ok] at hwrite ⊢
  rw [hd.render_bracketOperands] at hwrite
  exact hwrite

/-- `-(-(a - (NOT b)))` comes back, with all its brackets. -/
theorem parseOne_write_minus_minus :
    let d := Dialect.builtin .clickhouse none
    let e : Expr := .unary .minus (.unary .minus (.binary (.identifier ⟨"a", false⟩) .minus
      (.unary .not (.identifier ⟨"b", false⟩))))
    OperatorTree d e ∧ ∃ s e', (d.write e).outcome = .ok s ∧ (d.parseOne s).outcome = .ok e' ∧
      e'.essence = e.essence := by
  intro d e
  have htree : OperatorTree d e :=
    .unary .minus (.unary .minus (.binary (.identifier _) .minus (.unary .not (.identifier _))))
  exact ⟨htree, parseOne_write_operatorTree .clickhouse none htree⟩

end SqlDialects
