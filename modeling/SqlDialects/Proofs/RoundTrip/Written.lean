import SqlDialects.Proofs.Rendering.Alike
import SqlDialects.Proofs.Rendering.Parts
import SqlDialects.Proofs.RoundTrip.Operators

/-!
# Expressions that come back

`WrittenOperand n d e s` says all there is to say about an operand on its way out
and back: the dialect writes it, as the text of `s`; that text is cut into the
lexemes of `s`; and these lexemes are read as the canonical form of the operand.

One statement holds all three, because they are proved by the same induction and
each step needs them of the same parts.  For every form of expression there is one
lemma that puts its parts together.  Some places take more than an operand, and
have statements of their own: what may be named (`WrittenElement`), what stands
behind `FROM` (`WrittenSource`, `WrittenTable`), and queries (`WrittenQuery`).
-/

namespace SqlDialects

/-- A text and the lexemes that it is meant to be cut into. -/
structure Spelling where
  text : String
  lexemes : List Lexeme

namespace Spelling

/-- The spellings of some things with commas between them. -/
def commas {α : Type} (items : List (α × Spelling)) : Spelling :=
  ⟨String.intercalate ", " (items.map fun i => i.2.text),
    Lexeme.commas (items.map fun i => i.2.lexemes)⟩

theorem commas_singleton {α : Type} (a : α) (s : Spelling) : commas [(a, s)] = s := by
  have htext : String.intercalate ", " [s.text] = s.text := String.intercalate_singleton
  have hlexemes : Lexeme.commas [s.lexemes] = s.lexemes := List.append_nil s.lexemes
  show Spelling.mk (String.intercalate ", " [s.text]) (Lexeme.commas [s.lexemes]) = s
  rw [htext, hlexemes]

/-- A spelling in brackets. -/
def bracketed (s : Spelling) : Spelling := ⟨"(" ++ s.text ++ ")", Lexeme.bracketed s.lexemes⟩

theorem cuts_commas {n : DialectName} {α : Type} {items : List (α × Spelling)}
    (h : ∀ i ∈ items, n.lexer.Spells i.2.text i.2.lexemes) :
    n.lexer.Cuts Closes (commas items).text.toList (commas items).lexemes :=
  DialectName.cuts_commas h

end Spelling

/-- What an operand begins with: nothing that begins a query, and nothing that ends a list. -/
structure StartsOperand (l : Lexeme) : Prop where
  notSelect : l.isKeyword "SELECT" = false
  notDistinct : l.isKeyword "DISTINCT" = false
  kind_ne_endBracket : l.kind ≠ .endBracket

theorem startsOperand_of_kind {l : Lexeme} (hkeyword : l.kind ≠ .keyword)
    (hbracket : l.kind ≠ .endBracket) : StartsOperand l :=
  ⟨Lexeme.isKeyword_of_kind_ne hkeyword _, Lexeme.isKeyword_of_kind_ne hkeyword _, hbracket⟩

/-- An operand is written so that it is read back in its canonical form. -/
structure WrittenOperand (n : DialectName) (d : Dialect) (e : Expr) (s : Spelling) : Prop where
  renders : (d.render e).outcome = .ok s.text
  spells : n.lexer.Spells s.text s.lexemes
  first : ∃ l ms, s.lexemes = l :: ms ∧ StartsOperand l
  reads : Grammar.ReadsOperand d s.lexemes (d.canon e) e.strength

/-! ## Rendering -/

/-- A computation behind one that ends in a value. -/
theorem Traced.outcome_bind_of_ok {ε α β : Type} {x : Traced ε α} {a : α} (h : x.outcome = .ok a)
    (next : α → Traced ε β) : (x >>= next).outcome = (next a).outcome := by
  rw [Traced.outcome_bind, h]
  rfl

namespace Render

variable {d : Dialect} {ι : Type} {items : List ι} {text : ι → String}

theorem outcome_all {f : ι → Sql} (h : ∀ i ∈ items, (f i).outcome = .ok (text i)) :
    (Traced.all (items.map f)).outcome = .ok (items.map text) := by
  induction items with
  | nil => rfl
  | cons i items ih =>
    have hi := h i List.mem_cons_self
    have hrest := ih fun j hj => h j (List.mem_cons_of_mem i hj)
    rw [List.map_cons, Traced.all, Traced.outcome_bind_of_ok hi]
    exact Traced.outcome_bind_of_ok hrest _

theorem outcome_list {child : ι → Child} (h : ∀ i ∈ items, (child i).2.outcome = .ok (text i)) :
    (list (items.map child)).outcome = .ok (String.intercalate ", " (items.map text)) := by
  have hall := outcome_all (f := fun i => (child i).2) h
  unfold list
  rw [List.map_map]
  exact Traced.outcome_bind_of_ok hall _

theorem outcome_called (word : String) (child : ι → Child)
    (h : ∀ i ∈ items, (child i).2.outcome = .ok (text i)) :
    (called word (items.map child)).outcome =
      .ok (word ++ "(" ++ String.intercalate ", " (items.map text) ++ ")") := by
  unfold called
  exact Traced.outcome_bind_of_ok (outcome_list h) _

/-- An operand without brackets is written as it is. -/
theorem outcome_operand {c : Child} {outer : Nat} {onRight : Bool} {s : String}
    (h : c.2.outcome = .ok s) (hopen : needsBrackets c.1 outer onRight = false) :
    (operand c outer onRight).outcome = .ok s := by
  unfold operand
  rw [Traced.outcome_bind_of_ok h, hopen]
  rfl

end Render

namespace Grammar

variable {n : DialectName} {d : Dialect}

theorem endsOperand_comma (s : Nat) : EndsOperand s .comma :=
  ⟨by decide, by decide, fun op hop => by cases hop⟩

theorem endsOperand_endBracket (s : Nat) : EndsOperand s .endBracket :=
  ⟨by decide, by decide, fun op hop => by cases hop⟩

theorem endsOperand_keyword {w : String} (h : binaryOperator? (Lexeme.keyword w).token = none)
    (s : Nat) : EndsOperand s (.keyword w) :=
  ⟨nofun, nofun, fun op hop => by
    rw [h] at hop
    cases hop⟩

theorem endsOperand_as (s : Nat) : EndsOperand s (.keyword "AS") :=
  endsOperand_keyword (by decide +kernel) s

/-- Operands with commas between them, or none, and the closing bracket. -/
theorem reads_operands {items : List (Expr × Spelling)}
    (h : ∀ i ∈ items, WrittenOperand n d i.1 i.2) {nested : Nat → Parser Expr} {k : Nat}
    (hnested : Nested d nested k) :
    Reads k (Parser.csvToEndBracket (nested 0))
      ((Spelling.commas items).lexemes ++ [.endBracket]) (items.map fun i => d.canon i.1)
      AnyNext := by
  refine Reads.csvToEndBracket (F := EndsOperand 0) (fun i hi => ?_) (endsOperand_comma 0)
    (endsOperand_endBracket 0) fun i hi => ?_
  · exact (h i hi).reads.reads_nested (Nat.zero_le _) hnested
  · obtain ⟨l, ms, hls, hl⟩ := (h i hi).first
    exact ⟨l, ms, hls, hl.kind_ne_endBracket⟩

/-- What a primary in brackets is, by how many expressions stand in them. -/
def bracketedOf : List Expr → Expr
  | [inner] => .paren inner
  | elements => .tuple elements

theorem startsOperand_startBracket : StartsOperand .startBracket :=
  startsOperand_of_kind (by decide) (by decide)

/-- **Operands in brackets** are read as what stands in brackets. -/
theorem readsOperand_bracketed {items : List (Expr × Spelling)}
    (h : ∀ i ∈ items, WrittenOperand n d i.1 i.2) :
    ReadsOperand d (Spelling.commas items).bracketed.lexemes
      (bracketedOf (items.map fun i => d.canon i.1)) 9 := by
  refine readsOperand_primary ⟨_, _, rfl, rfl⟩ fun nested k hnested => ?_
  have hlist := reads_operands h hnested
  unfold primary
  refine Reads.peek_bind fun t next _ ht => ?_
  have hkind : t.kind = .startBracket := congrArg Lexeme.kind ht
  rw [hkind]
  show Reads (k + 1) (bracketed d nested) _ _ _
  unfold bracketed
  refine Reads.discard_expect_bind (m := k) (l := .startBracket) (fun h => by cases h) ?_
    (Nat.le_refl _)
  have hselect : ∀ next, EndsPrimary next →
      (headOr ((Spelling.commas items).lexemes ++ [.endBracket]) next).isKeyword "SELECT" =
        false := by
    intro next _
    cases items with
    | nil => exact Lexeme.isKeyword_of_kind_ne (fun h => by cases h) _
    | cons i items =>
      obtain ⟨l, ms, hls, hl⟩ := (h i List.mem_cons_self).first
      have hcommas : (Spelling.commas (i :: items)).lexemes =
          i.2.lexemes ++ (items.map fun i => i.2.lexemes).flatMap (.comma :: ·) := rfl
      rw [hcommas, hls]
      exact hl.notSelect
  refine Reads.checkKeyword_bind _ hselect ?_
  refine (hlist.bind_pure ?_).mono (Nat.le_refl k) fun _ _ => trivial
  cases items with
  | nil => rfl
  | cons i items => cases items <;> rfl

/-! ## What may be named -/

/-- What may follow an expression that may be named. -/
def EndsElement (next : Lexeme) : Prop := EndsOperand 0 next ∧ EndsNamed next

/-- An expression, with a name behind it if there is one. -/
def element (nested : Nat → Parser Expr) (implicit : Bool) : Parser Expr := do
  let e ← nested 0
  return bind e (← binding implicit)

end Grammar

/-- An expression that may be named is written so that it is read back in its canonical form. -/
structure WrittenElement (n : DialectName) (d : Dialect) (e : Expr) (s : Spelling) : Prop where
  renders : (d.render e).outcome = .ok s.text
  spells : n.lexer.Spells s.text s.lexemes
  first : ∃ l ms, s.lexemes = l :: ms ∧ StartsOperand l
  reads : ∀ nested k, Grammar.Nested d nested k → ∀ implicit,
    Reads k (Grammar.element nested implicit) s.lexemes (d.canon e) Grammar.EndsElement

/-! ## Names for expressions -/

/-- A spelling with a name behind it. -/
def Spelling.named (d : Dialect) (s : Spelling) (name : Identifier) : Spelling :=
  ⟨s.text ++ " AS " ++ d.writeIdentifier name, s.lexemes ++ [.keyword "AS", d.nameLexeme name]⟩

section Named

variable {n : DialectName} {d : Dialect} {e : Expr} {s : Spelling}

/-- The canonical form of an expression is an expression of the same kind. -/
theorem Dialect.kind_canon (d : Dialect) (e : Expr) : (d.canon e).kind = e.kind := by
  obtain ⟨node⟩ := e
  rw [Dialect.canon_mk]
  cases node <;> rfl

/-- A name is bound to what is not bound to one. -/
theorem Grammar.bind_canon (d : Dialect) {e : Expr} (h : e.kind ≠ .aliased) (name : Identifier) :
    Grammar.bind (d.canon e) (some (d.canonIdentifier name)) = d.canon (.aliased e name) := by
  rw [Dialect.canon_mk]
  show Expr.aliased (d.canon e).unalias _ = _
  rw [Expr.unalias_of_kind_ne]
  · rfl
  · rw [d.kind_canon]
    exact h

/-- Two parts with the word `AS` between them. -/
theorem DialectName.spells_as {a b : String} {ls ms : List Lexeme} (ha : n.lexer.Spells a ls)
    (hb : n.lexer.Spells b ms) : n.lexer.Spells (a ++ " AS " ++ b) (ls ++ .keyword "AS" :: ms) := by
  have has : n.lexer.Spells "AS" [.keyword "AS"] := spells_keyword (by decide)
  have hspells := spells_spaced (spells_spaced ha has) hb
  rw [List.append_assoc] at hspells
  have htext : a ++ " AS " = a ++ " " ++ "AS" ++ " " := by
    rw [String.append_assoc, String.append_assoc]
    rfl
  rw [htext]
  exact hspells

theorem Dialect.outcome_render_aliased (hd : n.Makes d) (h : (d.render e).outcome = .ok s.text)
    (name : Identifier) :
    (d.render (.aliased e name)).outcome = .ok (s.named d name).text := by
  rw [hd.render_plain _ rfl]
  exact Traced.outcome_bind_of_ok h _

/-- What may stand under an operator may stand where it may be named. -/
theorem WrittenOperand.element (h : WrittenOperand n d e s) : WrittenElement n d e s where
  renders := h.renders
  spells := h.spells
  first := h.first
  reads := by
    intro nested k hnested implicit
    have hname := ((Grammar.reads_no_binding implicit k).map_pure (Grammar.bind (d.canon e))).mono
      (G := Grammar.EndsElement) (Nat.le_refl k) fun next hnext => hnext.2
    have hread := (h.reads.reads_nested (Nat.zero_le _) hnested).bind
      (f := fun e => do return Grammar.bind e (← Grammar.binding implicit)) hname
      (Nat.le_add_right k _) fun next hnext => hnext.1
    rw [List.append_nil] at hread
    exact hread

/-- **A named expression comes back.** -/
theorem WrittenOperand.named (hd : n.Makes d) (h : WrittenOperand n d e s) (he : e.kind ≠ .aliased)
    (name : Identifier) : WrittenElement n d (.aliased e name) (s.named d name) where
  renders := Dialect.outcome_render_aliased hd h.renders name
  spells := DialectName.spells_as h.spells (DialectName.spells_identifier hd name)
  first := by
    obtain ⟨l, ms, hls, hl⟩ := h.first
    exact ⟨l, ms ++ [.keyword "AS", d.nameLexeme name], congrArg (· ++ _) hls, hl⟩
  reads := by
    intro nested k hnested implicit
    have hname := ((Grammar.reads_binding hd name implicit k).map_pure
      (Grammar.bind (d.canon e))).mono (G := Grammar.EndsElement) (Nat.le_refl k) fun _ _ => trivial
    rw [← Grammar.bind_canon d he name]
    exact (h.reads.reads_nested (Nat.zero_le _) hnested).bind
      (f := fun e => do return Grammar.bind e (← Grammar.binding implicit)) hname
      (Nat.le_add_right k _) fun _ _ => Grammar.endsOperand_as 0

end Named

end SqlDialects
