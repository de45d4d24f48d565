import SqlDialects.Proofs.Parser.Run
import SqlDialects.Proofs.Precedence.Stratified

/-!
# Climbing parses the grammar of expressions

The climbing parser and the descent through the levels are one function of the
cursor: the same tree, or the same error, with the same final cursor.

## What a level is to the climbing parser

A level is a least precedence.  Two facts carry the comparison.  The first is
that a loop which accepts operators from `m` on is a loop that accepts them from
`m + 1` on, followed by one for the operators of precedence exactly `m`
(`climbFrom_eq_bind`).  It holds because the right operand of an operator of
precedence `m` ends before any operator that binds tighter than `m`, so the outer
loop never meets one again.  The second is about `NOT`, which is where the two
parsers are built most differently: the climbing parser refuses it by comparing
its precedence with the least one, the levels below negation by not knowing it,
and both say the same about it (`prefixed_eq_signed`).
-/

namespace SqlDialects.Grammar

/-! ## Gathering operations

Both parsers gather operations on an operand that has been read; they differ in
which they accept, and in how they parse a right operand. -/

/-- The operations that follow an operand, gathered from the left. -/
def gather (item : Parser (Option (BinaryOperator × Expr))) (first : Expr) : Parser Expr := do
  let rest ← Parser.many item
  return operations first rest

section Gather

variable {item : Parser (Option (BinaryOperator × Expr))} {first : Expr} {c : Cursor}

theorem gather_of_none {c' : Cursor} (hi : item c = .ok none c') :
    gather item first c = .ok first c' :=
  Parser.bind_of_ok (Parser.many_of_none hi)

/-- One round: the right operand, and on with the two operands as one. -/
theorem gather_of_operation {op : BinaryOperator} {right : Parser Expr} {c₁ : Cursor}
    (hi : item c = (do return some (op, ← right) : Parser _) c₁) :
    gather item first c =
      match right c₁ with
      | .error e c' => .error e c'
      | .ok e c' =>
        if c'.remaining < c.remaining then gather item (.binary first op e) c'
        else .error (.fault .stalled) c' := by
  cases hr : right c₁ with
  | error e c' =>
    rw [Parser.bind_of_error hr] at hi
    exact Parser.bind_of_error (Parser.many_of_error hi)
  | ok e c' =>
    rw [Parser.bind_of_ok hr] at hi
    by_cases hlt : c'.remaining < c.remaining
    · simp only [hlt, if_true]
      cases hm : Parser.many item c' with
      | error e' c'' =>
        have hrest : gather item (.binary first op e) c' = .error e' c'' :=
          Parser.bind_of_error hm
        rw [hrest]
        exact Parser.bind_of_error (Parser.many_of_some_of_error hi hlt hm)
      | ok rest c'' =>
        have hrest : gather item (.binary first op e) c' =
            .ok (operations (.binary first op e) rest) c'' := Parser.bind_of_ok hm
        rw [hrest]
        exact Parser.bind_of_ok (Parser.many_of_some_of_ok hi hlt hm)
    · simp only [hlt, if_false]
      exact Parser.bind_of_error (Parser.many_of_stalled hi hlt)

end Gather

/-! ## The climbing loop -/

/-- The least precedence of the operators of a level. -/
def Level.least : Level → Nat
  | .disjunction => 0
  | .conjunction => 2
  | .negation => 3
  | .comparison => 4
  | .concatenation => 5
  | .sum => 6
  | .product => 7
  | .signed => 8

/-- The token under the cursor is no operator that binds so tightly. -/
def StopsBelow (least : Nat) (c : Cursor) : Prop :=
  ∀ op, binaryOperator? c.current = some op → op.precedence < least

theorem StopsBelow.mono {m n : Nat} {c : Cursor} (h : StopsBelow m c) (hmn : m ≤ n) :
    StopsBelow n c :=
  fun op hop => Nat.lt_of_lt_of_le (h op hop) hmn

section Climb

variable (nested : Nat → Parser Expr)

/-- The operations that bind at least so tightly and follow an operand. -/
def climbFrom (least : Nat) : Expr → Parser Expr := gather (operation? nested least)

theorem layer_eq_bind (d : Dialect) (least : Nat) :
    layer d nested least = prefixed d nested least >>= climbFrom nested least := rfl

variable {nested} {least : Nat} {c : Cursor}

theorem operation?_of_stopsBelow (h : StopsBelow least c) :
    operation? nested least c = .ok none c := by
  unfold operation?
  rw [Parser.bind_of_ok (Parser.peek_run c)]
  cases hop : binaryOperator? c.current with
  | none => rfl
  | some op =>
    simp only [h op hop, if_true]
    rfl

theorem operation?_of_le {op : BinaryOperator} (hop : binaryOperator? c.current = some op)
    (hle : least ≤ op.precedence) :
    operation? nested least c =
      (do return some (op, ← nested (op.precedence + 1)) : Parser _) c.advance := by
  unfold operation?
  rw [Parser.bind_of_ok (Parser.peek_run c), hop]
  simp only [if_neg (Nat.not_lt.2 hle)]
  rw [Parser.bind_of_ok (Parser.discard_advance_run c)]

/-- Where a loop for operators stands on none for it, or on one. -/
theorem stopsBelow_or_exists (least : Nat) (c : Cursor) :
    StopsBelow least c ∨
      ∃ op, binaryOperator? c.current = some op ∧ least ≤ op.precedence := by
  cases hop : binaryOperator? c.current with
  | none =>
    left
    intro op h
    rw [hop] at h
    cases h
  | some op =>
    rcases Nat.lt_or_ge op.precedence least with hlt | hle
    · left
      intro op' h
      rw [hop] at h
      cases h
      exact hlt
    · exact Or.inr ⟨op, rfl, hle⟩

theorem climbFrom_of_stopsBelow {first : Expr} (h : StopsBelow least c) :
    climbFrom nested least first c = .ok first c :=
  gather_of_none (operation?_of_stopsBelow h)

theorem climbFrom_of_le {first : Expr} {op : BinaryOperator}
    (hop : binaryOperator? c.current = some op) (hle : least ≤ op.precedence) :
    climbFrom nested least first c =
      match nested (op.precedence + 1) c.advance with
      | .error e c' => .error e c'
      | .ok e c' =>
        if c'.remaining < c.remaining then climbFrom nested least (.binary first op e) c'
        else .error (.fault .stalled) c' :=
  gather_of_operation (operation?_of_le hop hle)

/-- The loop ends before the first operator that is not for it. -/
theorem stopsBelow_of_climbFrom {first e : Expr} {c' : Cursor}
    (h : climbFrom nested least first c = .ok e c') : StopsBelow least c' := by
  obtain ⟨rest, c₁, hm, hc⟩ := Parser.bind_eq_ok.1 h
  cases hc
  refine Parser.many_induction (P := fun _ _ => StopsBelow least c') ?_ ?_ hm
  · intro c₁ hi
    rcases stopsBelow_or_exists least c₁ with hstop | ⟨op, hop, hle⟩
    · rw [operation?_of_stopsBelow hstop] at hi
      cases hi
      exact hstop
    · rw [operation?_of_le hop hle] at hi
      obtain ⟨right, c₂, -, hc⟩ := Parser.bind_eq_ok.1 hi
      cases hc
  · intro _ _ _ _ _ _ hstop
    exact hstop

theorem stopsBelow_of_layer {d : Dialect} {e : Expr} {c' : Cursor}
    (h : layer d nested least c = .ok e c') : StopsBelow least c' := by
  obtain ⟨first, c₁, -, hc⟩ := Parser.bind_eq_ok.1 h
  exact stopsBelow_of_climbFrom hc

/-! ## Operators before an operand -/

variable {d : Dialect}

theorem prefixed_of_none (h : unaryOperator? c.current = none) :
    prefixed d nested least c = primary d nested c := by
  unfold prefixed
  rw [Parser.bind_of_ok (Parser.peek_run c), h]

theorem prefixed_of_some {op : UnaryOperator} (h : unaryOperator? c.current = some op)
    (hnot : op = .not → least ≤ 3) :
    prefixed d nested least c =
      (do return .unary op (← nested op.precedence) : Parser Expr) c.advance := by
  have hallowed : ¬(op = .not ∧ UnaryOperator.not.precedence < least) := fun hop =>
    Nat.not_lt.2 (hnot hop.1) hop.2
  unfold prefixed
  rw [Parser.bind_of_ok (Parser.peek_run c), h]
  simp only [if_neg hallowed]
  rw [Parser.bind_of_ok (Parser.discard_advance_run c)]

theorem prefixed_of_not (h : unaryOperator? c.current = some .not) (hleast : 3 < least) :
    prefixed d nested least c = .error (.rejected ⟨.unexpected ["expression"], c.current⟩) c := by
  have hleast' : UnaryOperator.not.precedence < least := hleast
  unfold prefixed
  rw [Parser.bind_of_ok (Parser.peek_run c), h]
  simp only [true_and, if_pos hleast']
  exact Parser.unexpected_run ["expression"] c

end Climb

/-! ## The loop of a chain -/

namespace Stratified

variable {ops : List BinaryOperator} {right : Parser Expr} {c : Cursor}

theorem chain_eq_bind (ops : List BinaryOperator) (first right : Parser Expr) :
    chain ops first right = first >>= gather (operationAmong? ops right) := rfl

theorem operationAmong?_of_notMem
    (h : ∀ op, binaryOperator? c.current = some op → op ∉ ops) :
    operationAmong? ops right c = .ok none c := by
  have hf : (binaryOperator? c.current).filter ops.contains = none := by
    cases hop : binaryOperator? c.current with
    | none => rfl
    | some op => simp [Option.filter, h op hop]
  unfold operationAmong?
  rw [Parser.bind_of_ok (Parser.peek_run c), hf]
  rfl

theorem operationAmong?_of_mem {op : BinaryOperator}
    (hop : binaryOperator? c.current = some op) (hmem : op ∈ ops) :
    operationAmong? ops right c = (do return some (op, ← right) : Parser _) c.advance := by
  have hf : (binaryOperator? c.current).filter ops.contains = some op := by
    simp [hop, Option.filter, hmem]
  unfold operationAmong?
  rw [Parser.bind_of_ok (Parser.peek_run c), hf]
  rfl

end Stratified

open Stratified

/-! ## From one precedence to the next -/

section Step

variable {nested : Nat → Parser Expr} {m : Nat} {ops : List BinaryOperator}

/-- A loop for operators from `m` on is a loop for those from `m + 1` on, and after it one for
those of precedence `m`. -/
theorem climbFrom_eq_bind (hops : ∀ op : BinaryOperator, op ∈ ops ↔ op.precedence = m)
    (hstop : ∀ c e c', nested (m + 1) c = .ok e c' → StopsBelow (m + 1) c')
    (first : Expr) (c : Cursor) :
    climbFrom nested m first c =
      (climbFrom nested (m + 1) first >>= gather (operationAmong? ops (nested (m + 1)))) c := by
  generalize hn : c.remaining = n
  induction n using Nat.strongRecOn generalizing c first with
  | ind n ih =>
    subst hn
    rcases stopsBelow_or_exists m c with hlow | ⟨op, hop, hle⟩
    · -- no operator for either loop
      have hnone : ∀ op, binaryOperator? c.current = some op → op ∉ ops := by
        intro op hop hmem
        have := hlow op hop
        have := (hops op).1 hmem
        omega
      rw [climbFrom_of_stopsBelow hlow,
        Parser.bind_of_ok (climbFrom_of_stopsBelow (hlow.mono (Nat.le_succ m))),
        gather_of_none (operationAmong?_of_notMem hnone)]
    · rcases Nat.eq_or_lt_of_le hle with heq | hlt
      · -- an operator of precedence `m`: the tight loop is over, and not needed again
        subst heq
        have hsucc : StopsBelow (op.precedence + 1) c := by
          intro op' hop'
          rw [hop] at hop'
          cases hop'
          exact Nat.lt_succ_self _
        rw [climbFrom_of_le hop (Nat.le_refl _), Parser.bind_of_ok (climbFrom_of_stopsBelow hsucc),
          gather_of_operation (operationAmong?_of_mem hop ((hops op).2 rfl))]
        cases hr : nested (op.precedence + 1) c.advance with
        | error e c' => rfl
        | ok e c' =>
          by_cases hlt : c'.remaining < c.remaining
          · simp only [hlt, if_true]
            rw [ih c'.remaining hlt (.binary first op e) c' rfl,
              Parser.bind_of_ok (climbFrom_of_stopsBelow (hstop _ _ _ hr))]
          · simp only [hlt, if_false]
      · -- an operator that binds tighter goes to the tight loop
        have hstep : climbFrom nested (m + 1) first c = _ :=
          climbFrom_of_le hop (show m + 1 ≤ op.precedence from hlt)
        rw [climbFrom_of_le hop hle]
        cases hr : nested (op.precedence + 1) c.advance with
        | error e c' =>
          rw [hr] at hstep
          exact (Parser.bind_of_error hstep).symm
        | ok e c' =>
          simp only [hr] at hstep
          by_cases hlt' : c'.remaining < c.remaining
          · simp only [hlt', if_true] at hstep ⊢
            rw [ih c'.remaining hlt' (.binary first op e) c' rfl]
            exact Parser.bind_congr_run hstep.symm fun _ _ _ => rfl
          · simp only [hlt', if_false] at hstep ⊢
            exact (Parser.bind_of_error hstep).symm

/-- The least precedence bears on the operand before the loop only in letting `NOT` begin it. -/
theorem prefixed_succ (d : Dialect) (hm : m ≠ 3) :
    prefixed d nested m = prefixed d nested (m + 1) := by
  unfold prefixed
  congr 1
  funext token
  cases unaryOperator? token with
  | none => rfl
  | some op =>
    have hiff : (op = .not ∧ UnaryOperator.not.precedence < m) ↔
        (op = .not ∧ UnaryOperator.not.precedence < m + 1) := by
      have h3 : UnaryOperator.not.precedence = 3 := rfl
      exact and_congr_right fun _ => by omega
    simp only [hiff]

theorem layer_succ (d : Dialect) (ops : List BinaryOperator)
    (hops : ∀ op : BinaryOperator, op ∈ ops ↔ op.precedence = m)
    (hstop : ∀ c e c', nested (m + 1) c = .ok e c' → StopsBelow (m + 1) c') (hm : m ≠ 3) :
    layer d nested m = chain ops (layer d nested (m + 1)) (nested (m + 1)) := by
  funext c
  rw [chain_eq_bind, layer_eq_bind, layer_eq_bind, prefixed_succ d hm, bind_assoc]
  exact Parser.bind_congr_run rfl fun first c' _ => climbFrom_eq_bind hops hstop first c'

/-- Between these precedences lies no operator. -/
theorem climbFrom_succ (h : ∀ op : BinaryOperator, op.precedence ≠ m) :
    climbFrom nested m = climbFrom nested (m + 1) := by
  have hitem : operation? nested m = operation? nested (m + 1) := by
    unfold operation?
    congr 1
    funext token
    cases binaryOperator? token with
    | none => rfl
    | some op =>
      have hiff : op.precedence < m ↔ op.precedence < m + 1 := by
        have := h op
        omega
      simp only [hiff]
  unfold climbFrom
  rw [hitem]

/-! ## The two ends and `NOT` -/

theorem layer_zero (d : Dialect) : layer d nested 0 = layer d nested 1 := by
  have hpos : ∀ op : BinaryOperator, op.precedence ≠ 0 := fun op =>
    Nat.ne_of_gt op.one_le_precedence
  rw [layer_eq_bind, layer_eq_bind, prefixed_succ d (by decide), climbFrom_succ hpos]

theorem query_congr (d : Dialect) {nested' : Nat → Parser Expr} (h : nested 0 = nested' 0) :
    query d nested = query d nested' := by
  funext c
  generalize hn : c.remaining = n
  induction n using Nat.strongRecOn generalizing c with
  | ind n ih =>
    subst hn
    rw [query, query]
    have hinner : (Parser.descend c fun inner _ => query d nested inner) =
        Parser.descend c fun inner _ => query d nested' inner :=
      Parser.descend_congr fun inner hlt => ih inner.remaining hlt inner rfl
    rw [hinner]
    unfold queryLayer projection sortKey
    rw [h]

/-- Inside a primary only whole expressions are parsed. -/
theorem primary_congr (d : Dialect) {nested' : Nat → Parser Expr} (h : nested 0 = nested' 0) :
    primary d nested = primary d nested' := by
  unfold primary bracketed call callRest plainCall castCall quantileCall namedExpression
  rw [h, query_congr d h]

/-- A token is one keyword at most. -/
theorem isKeyword_eq_false {t : Token} {word other : String} (h : t.isKeyword word = true)
    (hne : word.toUpper ≠ other.toUpper) : t.isKeyword other = false := by
  unfold Token.isKeyword Text.sameIgnoringCase at h ⊢
  rw [Bool.and_eq_true, beq_iff_eq] at h
  rw [Bool.and_eq_false_iff]
  right
  rw [beq_eq_false_iff_ne, beq_iff_eq.1 h.2]
  exact hne

theorem kind_of_isKeyword {t : Token} {word : String} (h : t.isKeyword word = true) :
    t.kind = .keyword := by
  unfold Token.isKeyword at h
  rw [Bool.and_eq_true, beq_iff_eq] at h
  exact h.1

theorem primary_of_isKeyword_not (d : Dialect) {c : Cursor}
    (h : c.current.isKeyword "NOT" = true) :
    primary d nested c = .error (.rejected ⟨.unexpected ["expression"], c.current⟩) c := by
  have hnone : keywordLiteral? c.current = none := by
    unfold keywordLiteral?
    rw [isKeyword_eq_false h (by decide +kernel), isKeyword_eq_false h (by decide +kernel),
      isKeyword_eq_false h (by decide +kernel)]
    rfl
  unfold primary
  rw [Parser.bind_of_ok (Parser.peek_run c)]
  simp only [kind_of_isKeyword h, hnone]
  rfl

/-- Of signs and `NOT`, a level below negation knows the signs. -/
theorem unaryOperator?_eq (t : Token) :
    unaryOperator? t = if t.isKeyword "NOT" then some .not else sign? t := by
  unfold unaryOperator? sign?
  cases hk : t.kind <;> simp [Token.isKeyword, hk]

theorem signed_of_none {d : Dialect} {nested' : Level → Parser Expr} {c : Cursor}
    (h : sign? c.current = none) :
    signed d nested' c = primary d (fun _ => nested' .disjunction) c := by
  unfold signed
  rw [Parser.bind_of_ok (Parser.peek_run c), h]

theorem signed_of_some {d : Dialect} {nested' : Level → Parser Expr} {c : Cursor}
    {op : UnaryOperator} (h : sign? c.current = some op) :
    signed d nested' c =
      (do return .unary op (← nested' .signed) : Parser Expr) c.advance := by
  unfold signed
  rw [Parser.bind_of_ok (Parser.peek_run c), h]
  rfl

/-- Behind signs, the climbing parser comes to what the level does that knows only signs: where it
refuses `NOT`, that level finds no primary. -/
theorem prefixed_eq_signed (d : Dialect) {nested' : Level → Parser Expr}
    (hsigned : nested 8 = nested' .signed) (hall : nested 0 = nested' .disjunction) :
    prefixed d nested 8 = signed d nested' := by
  funext c
  have hop := unaryOperator?_eq c.current
  cases hnot : c.current.isKeyword "NOT" with
  | true =>
    have hsign : sign? c.current = none := by
      unfold sign?
      rw [kind_of_isKeyword hnot]
    rw [hnot, if_pos rfl] at hop
    rw [prefixed_of_not hop (by decide), signed_of_none hsign, primary_of_isKeyword_not d hnot]
  | false =>
    rw [hnot, if_neg Bool.false_ne_true] at hop
    cases hsign : sign? c.current with
    | none =>
      have hprimary : primary d nested = primary d fun _ => nested' .disjunction :=
        primary_congr d hall
      rw [prefixed_of_none (hop.trans hsign), signed_of_none hsign, hprimary]
    | some op =>
      have hsome : op ≠ .not ∧ op.precedence = 8 := by
        unfold sign? at hsign
        split at hsign <;> cases hsign <;> decide
      rw [prefixed_of_some (hop.trans hsign) fun h => absurd h hsome.1, signed_of_some hsign,
        hsome.2, hsigned]

theorem layer_eight (d : Dialect) {nested' : Level → Parser Expr}
    (hsigned : nested 8 = nested' .signed) (hall : nested 0 = nested' .disjunction) :
    layer d nested 8 = signed d nested' := by
  funext c
  rw [← prefixed_eq_signed d hsigned hall, layer_eq_bind]
  cases h : prefixed d nested 8 c with
  | error e c' => exact Parser.bind_of_error h
  | ok e c' =>
    rw [Parser.bind_of_ok h]
    exact climbFrom_of_stopsBelow fun op _ => Nat.lt_succ_of_le op.precedence_le

theorem layer_three (d : Dialect) {nested' : Level → Parser Expr}
    (hstop : ∀ c e c', nested 3 c = .ok e c' → StopsBelow 3 c')
    (hnegation : nested 3 = nested' .negation)
    (hcomparison : layer d nested 4 = comparison d nested') :
    layer d nested 3 = negation d nested' := by
  have hno : ∀ op : BinaryOperator, op.precedence ≠ 3 := by
    intro op
    cases op <;> decide
  funext c
  have hop := unaryOperator?_eq c.current
  unfold negation
  rw [layer_eq_bind]
  cases hnot : c.current.isKeyword "NOT" with
  | true =>
    have hconsume : Parser.consumeKeyword "NOT" c = .ok true c.advance := by
      rw [Parser.consumeKeyword_run, hnot, if_pos rfl]
    rw [hnot, if_pos rfl] at hop
    rw [Parser.bind_of_ok hconsume, if_pos rfl, ← hnegation]
    -- nothing is left for the loop behind the operand of `NOT`
    have hprefixed : prefixed d nested 3 c = _ := prefixed_of_some hop fun _ => Nat.le_refl 3
    cases hn : nested 3 c.advance with
    | error e c' =>
      have hunary : (do return .unary .not (← nested 3) : Parser Expr) c.advance = .error e c' :=
        Parser.bind_of_error hn
      exact (Parser.bind_of_error (hprefixed.trans hunary)).trans hunary.symm
    | ok e c' =>
      have hunary : (do return .unary .not (← nested 3) : Parser Expr) c.advance =
          .ok (.unary .not e) c' := Parser.bind_of_ok hn
      rw [Parser.bind_of_ok (hprefixed.trans hunary), climbFrom_of_stopsBelow (hstop _ _ _ hn)]
      exact hunary.symm
  | false =>
    have hconsume : Parser.consumeKeyword "NOT" c = .ok false c := by
      rw [Parser.consumeKeyword_run, hnot]
      rfl
    rw [hnot, if_neg Bool.false_ne_true] at hop
    have hprefixed : prefixed d nested 3 c = prefixed d nested 4 c := by
      cases hsign : sign? c.current with
      | none => rw [prefixed_of_none (hop.trans hsign), prefixed_of_none (hop.trans hsign)]
      | some op =>
        have hne : op ≠ .not := by
          unfold sign? at hsign
          split at hsign <;> cases hsign <;> decide
        rw [prefixed_of_some (hop.trans hsign) fun h => absurd h hne,
          prefixed_of_some (hop.trans hsign) fun h => absurd h hne]
    rw [Parser.bind_of_ok hconsume, ← hcomparison, layer_eq_bind, climbFrom_succ hno]
    exact Parser.bind_congr_run hprefixed fun _ _ _ => rfl

/-! ## All levels -/

/-- If the nested parsers of the two grammars agree, and none ends before an operator that is still
for it, then every level is the climbing parser from its least precedence on. -/
theorem layer_least (d : Dialect) {nested' : Level → Parser Expr}
    (hnested : ∀ l : Level, nested l.least = nested' l)
    (hstop : ∀ (l : Level) c e c', nested l.least c = .ok e c' → StopsBelow l.least c')
    (l : Level) : layer d nested l.least = Stratified.layer d nested' l := by
  have hsigned : layer d nested 8 = signed d nested' :=
    layer_eight d (hnested .signed) (hnested .disjunction)
  have hproduct : layer d nested 7 = product d nested' := by
    rw [layer_succ d [.multiply, .divide, .modulo]
      (by intro op; cases op <;> decide) (hstop .signed) (by decide), hsigned]
    exact congrArg _ (hnested .signed)
  have hsum : layer d nested 6 = sum d nested' := by
    rw [layer_succ d [.plus, .minus]
      (by intro op; cases op <;> decide) (hstop .product) (by decide), hproduct]
    exact congrArg _ (hnested .product)
  have hconcatenation : layer d nested 5 = concatenation d nested' := by
    rw [layer_succ d [.stringConcat]
      (by intro op; cases op <;> decide) (hstop .sum) (by decide), hsum]
    exact congrArg _ (hnested .sum)
  have hcomparison : layer d nested 4 = comparison d nested' := by
    rw [layer_succ d [.eq, .notEq, .lt, .ltEq, .gt, .gtEq]
      (by intro op; cases op <;> decide) (hstop .concatenation) (by decide), hconcatenation]
    exact congrArg _ (hnested .concatenation)
  have hnegation : layer d nested 3 = negation d nested' :=
    layer_three d (hstop .negation) (hnested .negation) hcomparison
  have hconjunction : layer d nested 2 = conjunction d nested' := by
    rw [layer_succ d [.and]
      (by intro op; cases op <;> decide) (hstop .negation) (by decide), hnegation]
    exact congrArg _ (hnested .negation)
  have hdisjunction : layer d nested 1 = disjunction d nested' := by
    rw [layer_succ d [.or]
      (by intro op; cases op <;> decide) (hstop .conjunction) (by decide), hconjunction]
    exact congrArg _ (hnested .conjunction)
  cases l with
  | disjunction => exact (layer_zero d).trans hdisjunction
  | conjunction => exact hconjunction
  | negation => exact hnegation
  | comparison => exact hcomparison
  | concatenation => exact hconcatenation
  | sum => exact hsum
  | product => exact hproduct
  | signed => exact hsigned

end Step

theorem operand_eq_layer (d : Dialect) (least : Nat) (c : Cursor) :
    operand d least c =
      layer d (fun least => Parser.descend c fun inner _ => operand d least inner) least c := by
  rw [operand]

/-- An operand of a level ends before any operator of that level. -/
theorem stopsBelow_of_operand {d : Dialect} {least : Nat} {c c' : Cursor} {e : Expr}
    (h : operand d least c = .ok e c') : StopsBelow least c' := by
  rw [operand_eq_layer] at h
  exact stopsBelow_of_layer h

/-- Climbing from the least precedence of a level on is parsing that level. -/
theorem operand_least (d : Dialect) (l : Level) (c : Cursor) :
    operand d l.least c = level d l c := by
  generalize hn : c.remaining = n
  induction n using Nat.strongRecOn generalizing c l with
  | ind n ih =>
    subst hn
    rw [operand_eq_layer, level]
    refine congrFun (layer_least d (fun l => ?_) (fun l c₁ e c' h => ?_) l) c
    · exact Parser.descend_congr fun inner hlt => ih inner.remaining hlt l inner rfl
    · unfold Parser.descend at h
      split at h
      · exact stopsBelow_of_operand h
      · cases h

/-- **The climbing parser and the stratified grammar agree** at every cursor: on the tree, on the
error and on where the cursor stops. -/
theorem expression_eq_stratified (d : Dialect) : expression d = Stratified.expression d :=
  funext fun c => operand_least d .disjunction c

end SqlDialects.Grammar
