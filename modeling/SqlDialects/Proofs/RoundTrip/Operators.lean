import SqlDialects.Proofs.Precedence.Climbing
import SqlDialects.Proofs.RoundTrip.Types
import SqlDialects.Render.Node

/-!
# Operators come back

Reading an operand is not an affair of its own, because the loop that gathers
operators never closes an operand: it goes on with whatever it has.  What can be
said is that at the lexemes of an operand the parser comes to where the loop stands
behind it with the operand in hand, and that is `ReadsOperand`.  It asks two
things.  The least precedence may not exceed the strength of the operand, or the
parser would stop inside; and what follows may not bind more tightly than the
operand, or the last operand inside would take it.

An operator is then one round of that loop (`readsOperand_binary`), an operator
before its operand one step to it (`readsOperand_unary`), and everything else is a
primary, of a strength that no operator has (`readsOperand_primary`).  The brackets
that `Render.needsBrackets` asks for are exactly what these statements ask of the
strengths of their parts.
-/

namespace SqlDialects

theorem Cursor.lexemes_advance_append {c : Cursor} {l next : Lexeme} {ls rest : List Lexeme}
    (h : c.lexemes = l :: (ls ++ next :: rest)) (hl : l.kind ≠ .endOfFile) :
    c.advance.lexemes = ls ++ next :: rest := by
  cases ls with
  | nil => exact Cursor.lexemes_advance h hl
  | cons m ls => exact Cursor.lexemes_advance h hl

namespace Grammar

variable {n : DialectName} {d : Dialect}

/-- Below `k`, `nested` parses operands. -/
def Nested (d : Dialect) (nested : Nat → Parser Expr) (k : Nat) : Prop :=
  ∀ least c, c.remaining < k → nested least c = operand d least c

/-- What may follow an operand of a strength: nothing that goes on with a name, and no operator
that binds more tightly. -/
structure EndsOperand (strength : Nat) (next : Lexeme) : Prop where
  kind_ne_startBracket : next.kind ≠ .startBracket
  kind_ne_dot : next.kind ≠ .dot
  precedence_le : ∀ op, binaryOperator? next.token = some op → op.precedence ≤ strength

theorem EndsOperand.mono {s s' : Nat} {next : Lexeme} (h : EndsOperand s next) (hs : s ≤ s') :
    EndsOperand s' next :=
  ⟨h.kind_ne_startBracket, h.kind_ne_dot, fun op hop => Nat.le_trans (h.precedence_le op hop) hs⟩

/-- The lexemes of an operand lead the parser to where the loop stands with it. -/
def ReadsOperand (d : Dialect) (ls : List Lexeme) (e : Expr) (strength : Nat) : Prop :=
  ∀ nested k, Nested d nested k → ∀ least, least ≤ strength → ∀ c next rest,
    c.remaining ≤ k → c.lexemes = ls ++ next :: rest → EndsOperand strength next →
      ∃ c', layer d nested least c = climbFrom nested least e c' ∧ c'.lexemes = next :: rest

/-- The operator of a token is that of its lexeme. -/
theorem binaryOperator?_lexeme (t : Token) : binaryOperator? t = binaryOperator? t.lexeme.token :=
  rfl

theorem unaryOperator?_lexeme (t : Token) : unaryOperator? t = unaryOperator? t.lexeme.token :=
  rfl

theorem binaryOperator?_operator (op : BinaryOperator) :
    binaryOperator? (Lexeme.operator op).token = some op := by
  cases op <;> decide +kernel

theorem unaryOperator?_prefixOperator (op : UnaryOperator) :
    unaryOperator? (Lexeme.prefixOperator op).token = some op := by
  cases op <;> decide +kernel

/-- An operator may follow what binds at least as tightly. -/
theorem endsOperand_operator {s : Nat} {op : BinaryOperator} (h : op.precedence ≤ s) :
    EndsOperand s (.operator op) := by
  refine ⟨?_, ?_, ?_⟩
  · cases op <;> exact fun h => by cases h
  · cases op <;> exact fun h => by cases h
  · intro op' hop
    rw [binaryOperator?_operator] at hop
    cases hop
    exact h

/-! ## From the loop to the operand -/

theorem stopsBelow_of_endsOperand {least : Nat} {c : Cursor} {next : Lexeme}
    (hc : c.current.lexeme = next) (h : EndsOperand (least - 1) next) : StopsBelow least c := by
  intro op hop
  rw [binaryOperator?_lexeme, hc] at hop
  have hle := h.precedence_le op hop
  have hone := op.one_le_precedence
  omega

/-- **An operand is read whole** before what does not bind as tightly as it has to. -/
theorem ReadsOperand.reads {ls : List Lexeme} {e : Expr} {s least : Nat}
    (h : ReadsOperand d ls e s) (hle : least ≤ s) (k : Nat) :
    Reads k (operand d least) ls e (EndsOperand (least - 1)) := by
  intro c next rest _ hc hnext
  have hnested : Nested d (fun least => Parser.descend c fun inner _ => operand d least inner)
      c.remaining := fun least c' hlt => Parser.descend_of_lt hlt
  obtain ⟨c', hlayer, hc'⟩ := h _ c.remaining hnested least hle c next rest (Nat.le_refl _) hc
    (hnext.mono (by omega))
  refine ⟨c', ?_, hc'⟩
  rw [operand_eq_layer, hlayer]
  exact climbFrom_of_stopsBelow (stopsBelow_of_endsOperand (Cursor.lexeme_current hc') hnext)

/-- A nested parser reads what the operand parser reads. -/
theorem ReadsOperand.reads_nested {ls : List Lexeme} {e : Expr} {s least k : Nat}
    {nested : Nat → Parser Expr} (h : ReadsOperand d ls e s) (hle : least ≤ s)
    (hnested : Nested d nested k) : Reads k (nested least) ls e (EndsOperand (least - 1)) :=
  (h.reads hle k).of_agree (hnested least)

/-! ## One operator -/

/-- An operator between two operands that it needs no brackets around. -/
theorem readsOperand_binary {ls ms : List Lexeme} {left right : Expr} {s t : Nat}
    {op : BinaryOperator} (hleft : ReadsOperand d ls left s) (hright : ReadsOperand d ms right t)
    (hs : op.precedence ≤ s) (ht : op.precedence < t) :
    ReadsOperand d (ls ++ .operator op :: ms) (.binary left op right) op.precedence := by
  intro nested k hnested least hle c next rest hk hc hnext
  have hc₀ : c.lexemes = ls ++ .operator op :: (ms ++ next :: rest) := by
    rw [hc, List.append_assoc]
    rfl
  obtain ⟨c₁, hlayer, hc₁⟩ := hleft nested k hnested least (Nat.le_trans hle hs) c _ _ hk hc₀
    (endsOperand_operator hs)
  have hadvance : c₁.advance.lexemes = ms ++ next :: rest :=
    Cursor.lexemes_advance_append hc₁ (by cases op <;> exact fun h => by cases h)
  have hlength := c.length_lexemes
  have hlength₁ := c₁.length_lexemes
  have hlength₂ := c₁.advance.length_lexemes
  simp only [hc₀, List.length_append, List.length_cons] at hlength
  simp only [hc₁, List.length_append, List.length_cons] at hlength₁
  simp only [hadvance, List.length_append, List.length_cons] at hlength₂
  obtain ⟨c₂, hread, hc₂⟩ := hright.reads_nested ht hnested c₁.advance next rest (by omega)
    hadvance hnext
  have hlength₃ := c₂.length_lexemes
  simp only [hc₂, List.length_cons] at hlength₃
  have hop : binaryOperator? c₁.current = some op := by
    rw [binaryOperator?_lexeme, Cursor.lexeme_current hc₁, binaryOperator?_operator]
  refine ⟨c₂, ?_, hc₂⟩
  rw [hlayer, climbFrom_of_le hop hle]
  simp only [hread]
  rw [if_pos (by omega)]

/-- What may follow the operand of an operator before it. -/
theorem EndsOperand.pred {op : UnaryOperator} {next : Lexeme}
    (h : EndsOperand op.precedence next) : EndsOperand (op.precedence - 1) next := by
  refine ⟨h.kind_ne_startBracket, h.kind_ne_dot, fun op' hop => ?_⟩
  have hle := h.precedence_le op' hop
  have hne : op'.precedence ≠ op.precedence := by
    cases op <;> cases op' <;> decide
  omega

/-- An operator before an operand that it needs no brackets around. -/
theorem readsOperand_unary {ls : List Lexeme} {inner : Expr} {s : Nat} {op : UnaryOperator}
    (hinner : ReadsOperand d ls inner s) (hs : op.precedence ≤ s) :
    ReadsOperand d (.prefixOperator op :: ls) (.unary op inner) op.precedence := by
  intro nested k hnested least hle c next rest hk hc hnext
  have hop : unaryOperator? c.current = some op := by
    rw [unaryOperator?_lexeme, Cursor.lexeme_current hc, unaryOperator?_prefixOperator]
  have hadvance : c.advance.lexemes = ls ++ next :: rest :=
    Cursor.lexemes_advance_append hc (by cases op <;> exact fun h => by cases h)
  have hlength := c.length_lexemes
  have hlength₁ := c.advance.length_lexemes
  rw [hc, List.cons_append, List.length_cons] at hlength
  rw [hadvance] at hlength₁
  obtain ⟨c₁, hread, hc₁⟩ := hinner.reads_nested hs hnested c.advance next rest (by omega)
    hadvance hnext.pred
  have hprefixed : prefixed d nested least c = .ok (.unary op inner) c₁ := by
    rw [prefixed_of_some hop fun hnot => by subst hnot; exact hle]
    exact Parser.bind_of_ok hread
  refine ⟨c₁, ?_, hc₁⟩
  rw [layer_eq_bind]
  exact Parser.bind_of_ok hprefixed

/-- What may follow a primary. -/
def EndsPrimary (next : Lexeme) : Prop := next.kind ≠ .startBracket ∧ next.kind ≠ .dot

/-- What is no operator binds more tightly than any. -/
theorem readsOperand_primary {ls : List Lexeme} {e : Expr}
    (hfirst : ∃ l ms, ls = l :: ms ∧ unaryOperator? l.token = none)
    (hread : ∀ nested k, Nested d nested k → Reads (k + 1) (primary d nested) ls e EndsPrimary) :
    ReadsOperand d ls e 9 := by
  intro nested k hnested least _ c next rest hk hc hnext
  obtain ⟨l, ms, rfl, hl⟩ := hfirst
  have hop : unaryOperator? c.current = none := by
    rw [unaryOperator?_lexeme, Cursor.lexeme_current hc, hl]
  obtain ⟨c', hprimary, hc'⟩ := hread nested k hnested c next rest (Nat.lt_succ_of_le hk) hc
    ⟨hnext.kind_ne_startBracket, hnext.kind_ne_dot⟩
  refine ⟨c', ?_, hc'⟩
  rw [layer_eq_bind]
  exact Parser.bind_of_ok ((prefixed_of_none hop).trans hprimary)

end Grammar

end SqlDialects
