import SqlDialects.Proofs.Parser.Operations
import SqlDialects.Proofs.Parser.Within
import SqlDialects.Proofs.Statements.Outcome

/-!
# How far a parser looks ahead

What a parser comes to does not depend on tokens that lie more than one place behind the one
where it stops.  So a statement can be followed by anything, an expression reads the same inside
of a longer text, and an error does not change with what comes later.

That is a statement about two runs once more, but on inputs which are the same up to some index
only.  `Pairing.agreeing` pairs them while two of their common tokens are left, the one under
the cursor and the one that may be looked at; with fewer it lets them go.  A run that is let go
can not come back.  So if it stops where two common tokens are left, it never was.
-/

namespace SqlDialects

variable {α : Type}

/-! ## Inputs that agree for a while -/

/-- The pairing of two inputs that are the same up to where one goes on with `left` and the other
with `left'`, as long as two of their common tokens are there. -/
def Pairing.agreeing (left left' : List Token) : Pairing where
  tokens t t' := t' = t
  cursors c c' := ∃ t next seen,
    c.tokens = t :: next :: (seen ++ left) ∧ c'.tokens = t :: next :: (seen ++ left')
  surplus := left'.length - left.length
  horizon := left.length + 1
  alike := by
    rintro t _ rfl
    exact Or.inl ⟨rfl, rfl, fun _ => rfl⟩
  current := by
    rintro c c' ⟨t, next, seen, htokens, htokens'⟩
    rw [Cursor.current_of_tokens htokens, Cursor.current_of_tokens htokens']
  next := by
    rintro ⟨t, ts, ms⟩ ⟨t', ts', ms'⟩ ⟨_, next, seen, htokens, htokens'⟩ -
    obtain ⟨-, rfl⟩ := List.cons.inj htokens
    obtain ⟨-, rfl⟩ := List.cons.inj htokens'
    rfl
  advance := by
    rintro c c' ⟨t, next, seen, htokens, htokens'⟩ hends hhorizon
    have hend : t.kind ≠ .endOfFile := fun h => by
      rw [Cursor.current_of_tokens htokens, h] at hends
      cases hends
    have hadvance := Cursor.tokens_advance htokens (List.cons_ne_nil _ _) hend
    have hadvance' := Cursor.tokens_advance htokens' (List.cons_ne_nil _ _) hend
    cases seen with
    | nil =>
      -- one common token would be left, and the horizon asks for two
      have hlength := congrArg List.length hadvance
      rw [Cursor.length_tokens, List.nil_append, List.length_cons] at hlength
      omega
    | cons second seen => exact ⟨next, second, seen, hadvance, hadvance'⟩
  remaining := by
    rintro c c' ⟨t, next, seen, htokens, htokens'⟩
    have hlength := congrArg List.length htokens
    have hlength' := congrArg List.length htokens'
    simp only [Cursor.length_tokens, List.length_cons, List.length_append] at hlength hlength'
    omega
  note _ _ h := h
  followed := by
    rintro c c' ⟨t, next, seen, htokens, -⟩
    have hlength := congrArg List.length htokens
    simp only [Cursor.length_tokens, List.length_cons, List.length_append] at hlength
    omega
  partner t _ := ⟨t, rfl⟩

namespace Cursor

variable {tokens tokens' : List Token} {i k : Nat} {c c' : Cursor}

/-- Inputs that agree on more tokens than there are agree on all. -/
theorem complete_eq_of_take_eq (h : (complete tokens').take k = (complete tokens).take k)
    (hk : (complete tokens).length < k) : complete tokens' = complete tokens := by
  rw [List.take_of_length_le (Nat.le_of_lt hk)] at h
  have hlength := congrArg List.length h
  rw [List.length_take] at hlength
  rwa [List.take_of_length_le (by omega)] at h

/-- Cursors at one index are the same while two common tokens are there. -/
theorem StandsAt.agreeing (hc : StandsAt tokens i c) (hc' : StandsAt tokens' i c')
    (h : (complete tokens').take k = (complete tokens).take k) (hk : k ≤ (complete tokens).length)
    (hi : i + 1 < k) :
    (Pairing.agreeing ((complete tokens).drop k) ((complete tokens').drop k)).cursors c c' := by
  have hlength : ((complete tokens).take k).length = k := List.length_take_of_le hk
  have hlength' : ((complete tokens').take k).length = k := h ▸ hlength
  have hsplit : c.tokens = ((complete tokens).take k).drop i ++ (complete tokens).drop k := by
    rw [hc, ← List.drop_append_of_le_length (by omega), List.take_append_drop]
  have hsplit' : c'.tokens = ((complete tokens).take k).drop i ++ (complete tokens').drop k := by
    rw [hc', ← h, ← List.drop_append_of_le_length (by omega), List.take_append_drop]
  have hseen : 2 ≤ (((complete tokens).take k).drop i).length := by
    rw [List.length_drop]
    omega
  generalize ((complete tokens).take k).drop i = seen at hsplit hsplit' hseen
  match seen with
  | t :: next :: seen => exact ⟨t, next, seen, hsplit, hsplit'⟩

/-- Where inputs agree on their first tokens, two runs that begin at one index can be followed for
as long as one more of these tokens is ahead. -/
theorem StandsAt.exists_pairing (hc : StandsAt tokens i c) (hc' : StandsAt tokens' i c')
    (h : (complete tokens').take k = (complete tokens).take k) (hi : i + 1 < k) :
    ∃ P : Pairing, (∀ t t', P.tokens t t' → t' = t) ∧ P.cursors c c' ∧
      ∀ j e, StandsAt tokens j e → j + 1 < k → P.horizon ≤ e.remaining := by
  rcases Nat.lt_or_ge (complete tokens).length k with hk | hk
  · have hwhole : c'.tokens = c.tokens := by rw [hc', complete_eq_of_take_eq h hk, hc]
    exact ⟨.within c.tokens, fun _ _ ht => ht.1, ⟨hwhole, List.suffix_rfl⟩,
      fun _ _ _ _ => Nat.zero_le _⟩
  · refine ⟨_, fun _ _ ht => ht, hc.agreeing hc' h hk hi, fun j e he hj => ?_⟩
    have hlength := he.length_eq
    show ((complete tokens).drop k).length + 1 ≤ e.remaining
    rw [List.length_drop]
    omega

end Cursor

/-! ## Where two runs stop -/

open Cursor (StandsAt complete)

namespace Pairing

variable {P : Pairing} {p : Parser α} {tokens tokens' : List Token} {i j : Nat} {c c' : Cursor}

/-- Where tokens are the same only as themselves, a run that was followed to its end has shown what
the other one comes to, and where. -/
theorem InStep.outcome_eq (hP : ∀ t t', P.tokens t t' → t' = t) (h : P.InStep Eq p p)
    (hpair : P.cursors c c') (hc : StandsAt tokens i c) (hc' : StandsAt tokens' i c')
    (hreach : c'.Reaches (Parsed.cursor (p c'))) (hstop : StandsAt tokens j (Parsed.cursor (p c)))
    (hahead : P.horizon ≤ (Parsed.cursor (p c)).remaining) :
    Parsed.outcome (p c') = Parsed.outcome (p c) ∧ StandsAt tokens' j (Parsed.cursor (p c')) := by
  have hends : P.cursors (Parsed.cursor (p c)) (Parsed.cursor (p c')) →
      StandsAt tokens' j (Parsed.cursor (p c')) := fun he =>
    hc.of_cursors hc' hpair he hreach hstop
  have hsame := h.same hpair
  generalize p c = x at hahead hends hsame
  generalize p c' = x' at hends hsame
  rcases hsame with (⟨rfl, he⟩ | ⟨ht, he⟩ | he) | (⟨-, hlt⟩ | hlt)
  · exact ⟨rfl, hends he⟩
  · obtain rfl := hP _ _ ht
    exact ⟨rfl, hends he⟩
  · exact ⟨rfl, hends he⟩
  · exact absurd hahead (Nat.not_le_of_lt hlt)
  · exact absurd hahead (Nat.not_le_of_lt hlt)

end Pairing

namespace Grammar

variable {d : Dialect} {p : Parser α} {P : Pairing}

/-- Every operation that takes a token is in step with itself. -/
theorem inStep_of_takes (h : Takes d p) : P.InStep Eq p p := by
  cases h with
  | identifier => exact inStep_identifier
  | dataType => exact inStep_dataType
  | expression => exact inStep_operand 0
  | aliasedExpression => exact inStep_namedExpression inStep_operand
  | functionCall => exact inStep_call inStep_operand
  | select => exact inStep_query inStep_operand
  | statement => exact inStep_statement

end Grammar

open Grammar (Takes)

/-- **A parser looks at most one token ahead of where it stops.**  Of two inputs that agree on their
first `k` tokens, let one be given to a parser for a name, a type, an expression, a call, a query or
a statement, which stops, with a value or an error, at an index `j` with `j + 1 < k`.  Then on the
other input the parser comes to the same value or error, and stops at the same index. -/
theorem stops_locally (d : Dialect) {tokens tokens' : List Token} {i j k : Nat} {c c' : Cursor}
    (h : (complete tokens').take k = (complete tokens).take k) (hc : StandsAt tokens i c)
    (hc' : StandsAt tokens' i c') {p : Parser α} (hp : Takes d p)
    (hstop : StandsAt tokens j (Parsed.cursor (p c))) (hj : j + 1 < k) :
    Parsed.outcome (p c') = Parsed.outcome (p c) ∧ StandsAt tokens' j (Parsed.cursor (p c')) := by
  have hreach := (Grammar.proceeds_of_takes hp _ c hc.among (Nat.lt_succ_self _)).reaches
  have hreach' := (Grammar.proceeds_of_takes hp _ c' hc'.among (Nat.lt_succ_self _)).reaches
  have hij : i ≤ j := (hc.le_iff hstop).2 hreach.remaining_le
  obtain ⟨P, htokens, hpair, hfollowed⟩ := hc.exists_pairing hc' h (by omega)
  exact (Grammar.inStep_of_takes hp).outcome_eq htokens hpair hc hc' hreach' hstop
    (hfollowed j _ hstop hj)

/-- A call is rejected for its arguments in the same way, whatever comes behind the next item. -/
theorem stops_locally_rejected_call :
    let d := Dialect.builtin .clickhouse none
    let tokens : List Token :=
      [⟨.word, "quantile", {}⟩, ⟨.startBracket, "(", {}⟩, ⟨.numericLiteral, "0.9", {}⟩,
        ⟨.endBracket, ")", {}⟩, ⟨.startBracket, "(", {}⟩, ⟨.word, "x", {}⟩, ⟨.comma, ",", {}⟩,
        ⟨.word, "y", {}⟩, ⟨.endBracket, ")", {}⟩, ⟨.comma, ",", {}⟩, ⟨.word, "z", {}⟩]
    let tokens' := tokens ++ [⟨.startBracket, "(", {}⟩, ⟨.stringLiteral, "'", {}⟩]
    (complete tokens').take 11 = (complete tokens).take 11 ∧
      Parsed.outcome (Grammar.expression d (.ofTokens tokens')) =
        .error (.parse ⟨.invalidCall (.count 1 2), ⟨.word, "quantile", {}⟩⟩) ∧
      StandsAt tokens' 9 (Parsed.cursor (Grammar.expression d (.ofTokens tokens'))) := by
  intro d tokens tokens'
  have hagree : (complete tokens').take 11 = (complete tokens).take 11 := by decide +kernel
  have hrun : Parsed.outcome (Grammar.expression d (.ofTokens tokens)) =
      .error (.parse ⟨.invalidCall (.count 1 2), ⟨.word, "quantile", {}⟩⟩) := by
    decide +kernel
  have hstop : StandsAt tokens 9 (Parsed.cursor (Grammar.expression d (.ofTokens tokens))) := by
    unfold StandsAt
    decide +kernel
  obtain ⟨houtcome, hstop'⟩ := stops_locally d hagree (Cursor.standsAt_ofTokens tokens)
    (Cursor.standsAt_ofTokens tokens') .expression hstop (by decide)
  exact ⟨hagree, houtcome.trans hrun, hstop'⟩

/-- The one token ahead is needed.  Where a table should come, a bracket is rejected or begins a
query, and only the token behind it tells which. -/
example :
    let d := Dialect.builtin .ansi none
    let tokens : List Token :=
      [⟨.keyword, "SELECT", {}⟩, ⟨.word, "a", {}⟩, ⟨.keyword, "FROM", {}⟩,
        ⟨.startBracket, "(", {}⟩]
    let query : List Token := [⟨.keyword, "SELECT", {}⟩, ⟨.word, "b", {}⟩, ⟨.endBracket, ")", {}⟩]
    (Parsed.cursor (Grammar.select d (.ofTokens tokens))).tokens = (complete tokens).drop 3 ∧
      (Parsed.outcome (Grammar.select d (.ofTokens tokens))).isOk = false ∧
      (Parsed.outcome (Grammar.select d (.ofTokens (tokens ++ query)))).isOk = true := by
  decide +kernel

end SqlDialects
