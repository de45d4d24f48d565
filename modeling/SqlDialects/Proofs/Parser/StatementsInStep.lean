import Mathlib.Data.List.Forall2
import SqlDialects.Proofs.Parser.GrammarInStep

/-!
# Whole inputs in step

Lists of statements look at semicolons, and take them.  For them to go in step the
tokens have to match at the ends of statements too, and the cursors have to stay
the same past an end: that is `Pairing.Throughout`.

`Pairing.pointwise` is the pairing of inputs that match token by token.
-/

namespace SqlDialects

namespace Cursor

/-- The tokens from the cursor on. -/
def tokens (c : Cursor) : List Token := c.current :: c.ahead

variable {c : Cursor} {t : Token} {ts : List Token}

theorem current_of_tokens (h : c.tokens = t :: ts) : c.current = t := (List.cons.inj h).1

/-- A cursor moves on by one token, unless it is at the end. -/
theorem tokens_advance (h : c.tokens = t :: ts) (hts : ts ≠ []) (ht : t.kind ≠ .endOfFile) :
    c.advance.tokens = ts := by
  obtain ⟨current, ahead, notes⟩ := c
  obtain ⟨rfl, rfl⟩ := List.cons.inj h
  obtain ⟨next, rest, rfl⟩ := List.exists_cons_of_ne_nil hts
  unfold advance
  rw [if_neg ht]
  rfl

theorem length_tokens (c : Cursor) : c.tokens.length = c.remaining + 1 := rfl

/-- A cursor that moves on leaves fewer tokens ahead. -/
theorem remaining_advance_lt (h : c.tokens = t :: ts) (hts : ts ≠ []) (ht : t.kind ≠ .endOfFile) :
    c.advance.remaining < c.remaining := by
  have hlength := congrArg List.length (tokens_advance h hts ht)
  have hlength' := congrArg List.length h
  rw [length_tokens] at hlength hlength'
  rw [List.length_cons] at hlength'
  omega

/-- A cursor begins with all tokens ahead, the end among them. -/
theorem tokens_ofTokens_eq (ts : List Token) : (ofTokens ts).tokens = complete ts := by
  unfold ofTokens
  split
  · rename_i hnil
    exact absurd hnil (complete_ne_nil ts)
  · rename_i hcons
    exact hcons.symm

/-- Where the end is there already, it begins with its tokens. -/
theorem tokens_ofTokens (ts : List Token) (finish : Span) :
    (ofTokens (ts ++ [.endOfFile finish])).tokens = ts ++ [.endOfFile finish] := by
  rw [tokens_ofTokens_eq]
  unfold complete
  rw [List.getLast?_concat]
  rfl

end Cursor

/-! ## One statement after another -/

namespace Grammar

open Pairing (InStep)

variable {d : Dialect} {c : Cursor}

/-- A statement and the end of it, which is looked at and left where it is. -/
def endedStatement (d : Dialect) : Parser (Option Expr) := do
  let e ← statement d
  let kind := (← Parser.peek).kind
  if kind == .semicolon || kind == .endOfFile then return some e
  Parser.unexpected ["';'", "end of input"]

theorem nextStatement?_eq (d : Dialect) :
    nextStatement? d = (do
      discard (Parser.many semicolon?)
      if ← Parser.check .endOfFile then return none
      endedStatement d) := rfl

theorem semicolon?_of_semicolon (h : c.current.kind = .semicolon) :
    semicolon? c = .ok (some ()) c.advance := by
  have hconsume : Parser.consume .semicolon c = .ok true c.advance := by
    rw [Parser.consume_run, h]
    rfl
  unfold semicolon?
  rw [Parser.bind_of_ok hconsume]
  rfl

theorem semicolon?_of_ne (h : c.current.kind ≠ .semicolon) : semicolon? c = .ok none c := by
  have hconsume : Parser.consume .semicolon c = .ok false c := by
    rw [Parser.consume_run, beq_eq_false_iff_ne.2 h]
    rfl
  unfold semicolon?
  rw [Parser.bind_of_ok hconsume]
  rfl

/-- A semicolon before a statement is passed over. -/
theorem nextStatement?_of_semicolon (h : c.current.kind = .semicolon)
    (hlt : c.advance.remaining < c.remaining) :
    nextStatement? d c = nextStatement? d c.advance := by
  have hfirst := semicolon?_of_semicolon h
  have hdiscard : (discard (Parser.many semicolon?) : Parser Unit) c =
      (discard (Parser.many semicolon?) : Parser Unit) c.advance := by
    refine (Parser.discard_run _ c).trans (Eq.trans ?_ (Parser.discard_run _ c.advance).symm)
    cases hrest : Parser.many semicolon? c.advance with
    | ok us c₁ =>
      rw [Parser.bind_of_ok hrest, Parser.bind_of_ok (Parser.many_of_some_of_ok hfirst hlt hrest)]
    | error e c₁ =>
      rw [Parser.bind_of_error hrest,
        Parser.bind_of_error (Parser.many_of_some_of_error hfirst hlt hrest)]
  exact Parser.bind_congr_run hdiscard fun _ _ _ => rfl

/-- Where no semicolon comes first, the end of the tokens or a statement does. -/
theorem nextStatement?_of_ne (h : c.current.kind ≠ .semicolon) :
    nextStatement? d c =
      (if c.current.kind == .endOfFile then pure none else endedStatement d : Parser _) c := by
  have hdiscard : (discard (Parser.many semicolon?) : Parser Unit) c = .ok () c := by
    refine (Parser.discard_run _ c).trans ?_
    rw [Parser.bind_of_ok (Parser.many_of_none (semicolon?_of_ne h))]
    rfl
  rw [nextStatement?_eq, Parser.bind_of_ok hdiscard,
    Parser.bind_of_ok (Parser.check_run .endOfFile c)]

/-- **The end of a statement ends it in both runs**, be it a semicolon or the end. -/
theorem inStep_endedStatement {P : Pairing} :
    P.InStep (fun o o' => o' = o ∧ o ≠ none) (endedStatement d) (endedStatement d) := by
  refine inStep_statement.bind_eq fun e => ?_
  refine InStep.peek_bind (fun t t' _ hm => InStep.at_of ?_) ?_
  · show P.InStep _ (if _ then _ else _) (if _ then _ else _)
    rw [hm.kind]
    split
    · exact InStep.pure ⟨rfl, nofun⟩
    · exact InStep.unexpected _ _
  · rintro t t' (hk | hk) (hk' | hk') <;>
    · rw [hk, hk']
      exact InStep.pure ⟨rfl, nofun⟩

end Grammar

namespace Pairing

variable (P : Pairing)

/-- The inputs are the same as wholes, and the ends of statements make no exception. -/
structure Throughout : Prop where
  endless : P.horizon = 0
  matches_of {t t' : Token} : P.tokens t t' → t.Matches t'
  advance {c c' : Cursor} : P.cursors c c' → P.cursors c.advance c'.advance

variable {P}

namespace Throughout

theorem consume (h : P.Throughout) (kind : TokenKind) :
    P.InStep Eq (Parser.consume kind) (Parser.consume kind) := by
  refine InStep.of_run h.endless fun c c' hc => ?_
  rw [Parser.consume_run, Parser.consume_run, (h.matches_of (P.current hc)).kind]
  split
  · exact .ok rfl (h.advance hc)
  · exact .ok rfl hc

theorem check (h : P.Throughout) (kind : TokenKind) :
    P.InStep Eq (Parser.check kind) (Parser.check kind) := by
  refine InStep.of_run h.endless fun c c' hc => ?_
  rw [Parser.check_run, Parser.check_run, (h.matches_of (P.current hc)).kind]
  exact .ok rfl hc

theorem expect (h : P.Throughout) (kind : TokenKind) (expected : String) :
    P.InStep P.tokens (Parser.expect kind expected) (Parser.expect kind expected) := by
  refine InStep.of_run h.endless fun c c' hc => ?_
  rw [Parser.expect_run, Parser.expect_run, (h.matches_of (P.current hc)).kind]
  split
  · exact .ok (P.current hc) (h.advance hc)
  · exact .rejected (P.current hc) hc

/-- **Semicolons and all, the next statement is the same in both runs.** -/
theorem nextStatement? {d : Dialect} (h : P.Throughout) :
    P.InStep Eq (Grammar.nextStatement? d) (Grammar.nextStatement? d) := by
  have hsemicolon : P.InStep Eq Grammar.semicolon? Grammar.semicolon? :=
    (h.consume .semicolon).bind_eq fun _ => InStep.pure rfl
  rw [Grammar.nextStatement?_eq]
  refine (InStep.many hsemicolon).discard_bind ((h.check .endOfFile).bind_eq fun ended => ?_)
  cases ended with
  | true => exact InStep.pure rfl
  | false => exact Grammar.inStep_endedStatement.mono fun _ _ ho => ho.1.symm

/-- **So are all statements.** -/
theorem statements {d : Dialect} (h : P.Throughout) :
    P.InStep Eq (Grammar.statements d) (Grammar.statements d) :=
  (InStep.many h.nextStatement?).bind_eq fun _ => InStep.note_bind _ _ (InStep.pure rfl)

/-- **So is a statement that is to be the only one.** -/
theorem onlyStatement {d : Dialect} (h : P.Throughout) :
    P.InStep Eq (Grammar.onlyStatement d) (Grammar.onlyStatement d) := by
  refine Grammar.inStep_statement.bind_eq fun e => ?_
  refine (h.consume .semicolon).discard_bind ?_
  exact (h.expect .endOfFile _).discard_bind (InStep.pure rfl)

end Throughout

/-! ## Token by token -/

section Pointwise

variable {R : Token → Token → Prop} (hR : ∀ t t', R t t' → t.Matches t')

include hR in
theorem forall₂_tokens_advance {c c' : Cursor} (h : List.Forall₂ R c.tokens c'.tokens) :
    List.Forall₂ R c.advance.tokens c'.advance.tokens := by
  obtain ⟨t, ts, ms⟩ := c
  obtain ⟨t', ts', ms'⟩ := c'
  obtain ⟨ht, hts⟩ := List.forall₂_cons.1 h
  have hkind := (hR _ _ ht).kind
  unfold Cursor.advance
  by_cases hend : t.kind = .endOfFile
  · rw [if_pos hend, if_pos (hkind.trans hend)]
    exact h
  · rw [if_neg hend, if_neg (hkind ▸ hend)]
    cases hts with
    | nil => exact h
    | cons hnext hrest => exact .cons hnext hrest

/-- The pairing of inputs whose tokens `R` relates one by one, where `R` is finer than matching. -/
def pointwise (R : Token → Token → Prop) (hR : ∀ t t', R t t' → t.Matches t') : Pairing where
  tokens := R
  cursors c c' := List.Forall₂ R c.tokens c'.tokens
  surplus := 0
  alike h := Or.inl (hR _ _ h)
  current h := (List.forall₂_cons.1 h).1
  next := by
    rintro ⟨t, ts, ms⟩ ⟨t', ts', ms'⟩ h _
    obtain ⟨ht, hts⟩ := List.forall₂_cons.1 h
    cases hts with
    | nil => exact ht
    | cons hnext _ => exact hnext
  advance h _ _ := forall₂_tokens_advance hR h
  remaining h := by
    have hlength := h.length_eq
    rw [Cursor.length_tokens, Cursor.length_tokens] at hlength
    omega
  note _ _ h := h

theorem throughout_pointwise (hR : ∀ t t', R t t' → t.Matches t') :
    (pointwise R hR).Throughout where
  endless := rfl
  matches_of := hR _ _
  advance := forall₂_tokens_advance hR

end Pointwise
end Pairing
end SqlDialects
