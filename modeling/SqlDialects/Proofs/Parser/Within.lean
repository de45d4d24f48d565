import Mathlib.Logic.Function.Iterate
import SqlDialects.Proofs.Parser.StatementsInStep

/-!
# Among the tokens

A parser looks at the tokens from its cursor on and at no others.  Whatever it does,
it ends on one of them, and if it rejects, then it rejects one of them --- also where
the rejection comes long after the token was passed, as that of a call for its
arguments does.

Nothing has to be said about single parsers for that.  A run is in step with itself,
and `Pairing.within` says of the two that they stand among given tokens; what the
grammar keeps of every pairing it keeps of this one.

What a cursor sees can also be said by index.  However often it has moved on, the token
that it finds some places ahead is the one at the sum of the two, or the last one where
there are not so many (`Cursor.getElem?_advance`).
-/

namespace SqlDialects

namespace Cursor

variable {c : Cursor} {ts : List Token}

theorem current_mem_tokens (c : Cursor) : c.current ∈ c.tokens := List.mem_cons_self

theorem peek_mem_tokens (c : Cursor) (n : Nat) : c.peek n ∈ c.tokens := by
  unfold peek
  cases hlast : (c.ahead.take n).getLast? with
  | none => rw [List.getLastD_eq_getLast?, hlast]; exact c.current_mem_tokens
  | some last =>
    rw [List.getLastD_eq_getLast?, hlast]
    exact List.mem_cons_of_mem _ (List.mem_of_mem_take (List.mem_of_getLast? hlast))

/-- What is ahead depends on the tokens alone. -/
theorem tokens_advance_congr {c' : Cursor} (h : c'.tokens = c.tokens) :
    c'.advance.tokens = c.advance.tokens := by
  obtain ⟨current, ahead, notes⟩ := c
  obtain ⟨current', ahead', notes'⟩ := c'
  obtain ⟨rfl, rfl⟩ := List.cons.inj h
  unfold advance
  split
  · rfl
  · cases ahead' <;> rfl

/-- A cursor that moves on leaves tokens behind, and comes to no others. -/
theorem tokens_advance_suffix (c : Cursor) : c.advance.tokens <:+ c.tokens := by
  obtain ⟨current, ahead, notes⟩ := c
  unfold advance
  split
  · exact List.suffix_rfl
  · cases ahead with
    | nil => exact List.suffix_rfl
    | cons next rest => exact List.suffix_cons current (next :: rest)

/-- What a cursor finds so many places ahead, by index. -/
theorem getElem?_peek (c : Cursor) (i : Nat) : c.tokens[min i c.remaining]? = some (c.peek i) := by
  obtain ⟨current, ahead, notes⟩ := c
  induction i generalizing current ahead with
  | zero => rw [Nat.zero_min]; rfl
  | succ i ih =>
    cases ahead with
    | nil => rfl
    | cons next rest =>
      show (current :: next :: rest)[min (i + 1) (rest.length + 1)]? =
        some (((next :: rest).take (i + 1)).getLastD current)
      rw [Nat.add_min_add_right, List.getElem?_cons_succ, List.take_succ_cons, List.getLastD_cons]
      exact ih next rest

/-- **What a cursor finds so many places ahead, however often it has moved on**, by index.  The
index is always one of a token. -/
theorem getElem?_advance {front : List Token} {finish : Token} (k i : Nat)
    (h : c.tokens = front ++ [finish]) (hfront : ∀ t ∈ front, t.kind ≠ .endOfFile)
    (hfinish : finish.kind = .endOfFile) :
    c.tokens[min (k + i) c.remaining]? = some ((advance^[k] c).peek i) := by
  -- on the end a cursor stays, and the index with it; before the end both lose one token
  induction k generalizing c front with
  | zero => rw [Nat.zero_add]; exact c.getElem?_peek i
  | succ k ih =>
    rw [Function.iterate_succ_apply]
    cases front with
    | nil =>
      have hlast : c.current.kind = .endOfFile := current_of_tokens h ▸ hfinish
      have hstays : c.advance = c := if_pos hlast
      have hnone : c.remaining = 0 := Nat.succ.inj (congrArg List.length h)
      have hrest := ih h hfront
      rw [hnone, Nat.min_zero] at hrest ⊢
      rwa [hstays]
    | cons t front =>
      obtain ⟨ht, hfront⟩ := List.forall_mem_cons.1 hfront
      have hne : front ++ [finish] ≠ [] := by simp
      have hadvance : c.advance.tokens = front ++ [finish] := tokens_advance h hne ht
      have hcons : c.tokens = t :: c.advance.tokens := h.trans (congrArg (t :: ·) hadvance.symm)
      have hremaining : c.remaining = c.advance.remaining + 1 :=
        Nat.succ.inj (congrArg List.length hcons)
      rw [hcons, hremaining, Nat.add_right_comm, Nat.add_min_add_right, List.getElem?_cons_succ]
      exact ih hadvance hfront

end Cursor

namespace Pairing

variable {α : Type} {I : List Token → Prop}

/-! ## A run beside itself -/

/-- The pairing of a run with itself, while an invariant holds of the tokens from the cursor on.  It
may be lost where a statement ends. -/
def keeping (I : List Token → Prop)
    (hI : ∀ c : Cursor, I c.tokens → c.current.kind.endsStatement = false → I c.advance.tokens) :
    Pairing where
  tokens t t' := t' = t ∧ ∃ ts, I ts ∧ t ∈ ts
  cursors c c' := c'.tokens = c.tokens ∧ I c.tokens
  surplus := 0
  alike := by
    rintro t _ ⟨rfl, -⟩
    exact Or.inl ⟨rfl, rfl, fun _ => rfl⟩
  current := by
    rintro c c' ⟨heq, hc⟩
    exact ⟨(List.cons.inj heq).1, _, hc, c.current_mem_tokens⟩
  next := by
    rintro c ⟨current, ahead, notes⟩ ⟨heq, hc⟩ -
    obtain ⟨rfl, rfl⟩ := List.cons.inj heq
    exact ⟨rfl, _, hc, c.peek_mem_tokens 1⟩
  advance := by
    rintro c c' ⟨heq, hc⟩ hends -
    exact ⟨Cursor.tokens_advance_congr heq, hI c hc hends⟩
  remaining h := by
    have hlength := congrArg List.length h.1
    rw [Cursor.length_tokens, Cursor.length_tokens] at hlength
    omega
  note _ _ h := h

/-- The pairing of a run with itself, on cursors that stand among given tokens. -/
def within (ts : List Token) : Pairing :=
  keeping (· <:+ ts) fun c hc _ => c.tokens_advance_suffix.trans hc

/-- The pairing of a run with itself, on cursors before which no statement has ended. -/
def unended (ts : List Token) : Pairing :=
  keeping (fun left => ∃ passed, ts = passed ++ left ∧ ∀ t ∈ passed, t.kind.endsStatement = false)
    fun c ⟨passed, hts, hpassed⟩ hends => by
      have hend : c.current.kind ≠ .endOfFile := fun h => by rw [h] at hends; cases hends
      cases hahead : c.ahead with
      | nil =>
        have hstays : c.advance = c := by
          unfold Cursor.advance
          rw [if_neg hend, hahead]
        rw [hstays]
        exact ⟨passed, hts, hpassed⟩
      | cons next rest =>
        have htokens : c.tokens = c.current :: next :: rest := congrArg (c.current :: ·) hahead
        have hadvance := Cursor.tokens_advance htokens (List.cons_ne_nil _ _) hend
        refine ⟨passed ++ [c.current], ?_, ?_⟩
        · rw [hts, htokens, hadvance, List.append_assoc]
          rfl
        · exact List.forall_mem_append.2 ⟨hpassed, List.forall_mem_singleton.2 hends⟩

theorem throughout_within (ts : List Token) : (within ts).Throughout where
  endless := rfl
  matches_of := by
    rintro t _ ⟨rfl, -⟩
    exact ⟨rfl, rfl, fun _ => rfl⟩
  advance := by
    rintro c c' ⟨heq, hc⟩
    exact ⟨Cursor.tokens_advance_congr heq, c.tokens_advance_suffix.trans hc⟩

namespace InStep

variable {V : α → α → Prop} {p : Parser α} {c c' : Cursor}
  {hI : ∀ c : Cursor, I c.tokens → c.current.kind.endsStatement = false → I c.advance.tokens}

theorem keeps_of_ok (h : (keeping I hI).InStep V p p) (hc : I c.tokens) {a : α}
    (hrun : p c = .ok a c') : I c'.tokens := by
  have hsame := h.run rfl (c := c) ⟨rfl, hc⟩
  rw [hrun] at hsame
  cases hsame with
  | ok _ hc => exact hc.2

theorem keeps_of_rejected (h : (keeping I hI).InStep V p p) (hc : I c.tokens) {e : ParseError}
    (hrun : p c = .error (.rejected e) c') : ∃ ts, I ts ∧ e.token ∈ ts := by
  have hsame := h.run rfl (c := c) ⟨rfl, hc⟩
  rw [hrun] at hsame
  cases hsame with
  | rejected ht _ => exact ht.2

/-- **What a parser rejects is a token that it found.** -/
theorem token_mem_of_rejected (h : (within c.tokens).InStep V p p) {e : ParseError}
    (hrun : p c = .error (.rejected e) c') : e.token ∈ c.tokens := by
  obtain ⟨ts, hts, hmem⟩ := h.keeps_of_rejected List.suffix_rfl hrun
  exact hts.subset hmem

end InStep
end Pairing

/-- **A statement passes no token that ends one.** -/
theorem Grammar.exists_passed_of_statement {d : Dialect} {c c' : Cursor} {e : Expr}
    (h : statement d c = .ok e c') :
    ∃ passed, c.tokens = passed ++ c'.tokens ∧ ∀ t ∈ passed, t.kind.endsStatement = false :=
  (inStep_statement (P := .unended c.tokens)).keeps_of_ok ⟨[], rfl, nofun⟩ h

end SqlDialects
