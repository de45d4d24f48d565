import SqlDialects.Proofs.Parser.GrammarProceeds

/-!
# Whatever is asked of a parser

A parser is given tokens of any kinds in any order, which may end early, more than once,
or not at all; then it is asked for one thing after another, and it goes on from where
the last one left it, whether or not that came to anything.  An `Operation` is what it
may be asked for, and a `Reachable` cursor is where it may then stand.

The tokens need have no property for the grammar to get on (`proceeds_of_operation`), so
nothing is asked of them here.  What is new is the index: a cursor knows the tokens from
its own on, and since those that it passed are not the end, it stands at an index up to
that of the first end (`exists_standsAt_of_reaches`).
-/

namespace SqlDialects

variable {α : Type}

/-- The cursor where a parser stopped. -/
def Parsed.cursor : Parsed α → Cursor
  | .ok _ c | .error _ c => c

namespace Cursor

variable {tokens tokens' : List Token} {i j : Nat} {c c' e e' : Cursor}

/-! ## Indices -/

/-- A cursor stands at an index of some tokens and the end that completes them. -/
def StandsAt (tokens : List Token) (i : Nat) (c : Cursor) : Prop :=
  c.tokens = (complete tokens).drop i

/-- The index of the first end. -/
def firstEnd (tokens : List Token) : Nat :=
  (complete tokens).findIdx fun t => t.kind == .endOfFile

/-- Only the kind of the last token decides whether an end is added. -/
theorem exists_complete_eq (tokens : List Token) : ∃ finish, complete tokens =
    if tokens.getLast?.map Token.kind = some .endOfFile then tokens
    else tokens ++ [.endOfFile finish] := by
  unfold complete
  split
  · rename_i hnone
    rw [hnone, List.getLast?_eq_none_iff.1 hnone]
    exact ⟨{}, rfl⟩
  · rename_i last hlast
    rw [hlast]
    simp only [Option.map_some, Option.some.injEq]
    exact ⟨last.span, rfl⟩

theorem getLast?_complete (tokens : List Token) :
    (complete tokens).getLast?.map Token.kind = some .endOfFile := by
  obtain ⟨finish, hcomplete⟩ := exists_complete_eq tokens
  rw [hcomplete]
  split
  · rename_i hend
    exact hend
  · rw [List.getLast?_concat]
    rfl

/-- Any tokens can be given to a parser. -/
theorem among_ofTokens (tokens : List Token) : (ofTokens tokens).Among fun _ => True where
  tokens _ _ := trivial
  ends := by
    rw [tokens_ofTokens_eq]
    exact getLast?_complete tokens

/-- **What is reached from the first token stands at an index**, and not behind the first end. -/
theorem exists_standsAt_of_reaches (h : (ofTokens tokens).Reaches c) :
    ∃ i ≤ firstEnd tokens, StandsAt tokens i c := by
  obtain ⟨passed, htokens, hpassed⟩ := h
  rw [tokens_ofTokens_eq] at htokens
  refine ⟨passed.length, ?_, ?_⟩
  · have hnone : passed.findIdx (fun t => t.kind == .endOfFile) = passed.length :=
      List.findIdx_eq_length.2 fun t ht => beq_eq_false_iff_ne.2 (hpassed t ht)
    rw [firstEnd, htokens, List.findIdx_append, hnone, if_neg (Nat.lt_irrefl _)]
    exact Nat.le_add_left _ _
  · unfold StandsAt
    rw [htokens, List.drop_left]

/-- The first cursor stands at the first index. -/
theorem standsAt_ofTokens (tokens : List Token) : StandsAt tokens 0 (ofTokens tokens) :=
  tokens_ofTokens_eq tokens

/-- Before the index there are the tokens that were passed, and after it those ahead. -/
theorem StandsAt.length_eq (h : StandsAt tokens i c) :
    (complete tokens).length = i + (c.remaining + 1) := by
  have hlength := congrArg List.length h
  rw [length_tokens, List.length_drop] at hlength
  omega

/-- A cursor that stands at an index is among the tokens. -/
theorem StandsAt.among (h : StandsAt tokens i c) : c.Among (· ∈ complete tokens) where
  tokens t ht := List.mem_of_mem_drop (h ▸ ht)
  ends := by
    have hlength := h.length_eq
    rw [h, List.getLast?_drop, if_neg (by omega)]
    exact getLast?_complete tokens

/-- What is reached from an index stands at one that is not less. -/
theorem StandsAt.of_reaches (h : StandsAt tokens i c) (hreach : c.Reaches c') :
    ∃ j, i ≤ j ∧ StandsAt tokens j c' := by
  obtain ⟨passed, htokens, -⟩ := hreach
  refine ⟨i + passed.length, Nat.le_add_right _ _, ?_⟩
  rw [StandsAt, ← List.drop_drop, ← h, htokens, List.drop_left]

/-- The index grows as fewer tokens are ahead. -/
theorem StandsAt.lt_iff (h : StandsAt tokens i c) (h' : StandsAt tokens j c') :
    i < j ↔ c'.remaining < c.remaining := by
  have hlength := h.length_eq
  have hlength' := h'.length_eq
  omega

theorem StandsAt.le_iff (h : StandsAt tokens i c) (h' : StandsAt tokens j c') :
    i ≤ j ↔ c'.remaining ≤ c.remaining := by
  rw [← Nat.not_lt, h'.lt_iff h, Nat.not_lt]

/-- Two runs from one index that are the same at their ends are there at one index. -/
theorem StandsAt.of_cursors {P : Pairing} (h : StandsAt tokens i c) (h' : StandsAt tokens' i c')
    (hc : P.cursors c c') (he : P.cursors e e') (hreach : c'.Reaches e')
    (hj : StandsAt tokens j e) : StandsAt tokens' j e' := by
  obtain ⟨j', -, hj'⟩ := h'.of_reaches hreach
  have hbegin := P.remaining hc
  have hend := P.remaining he
  have hlength := h.length_eq.symm.trans hj.length_eq
  have hlength' := h'.length_eq.symm.trans hj'.length_eq
  obtain rfl : j = j' := by omega
  exact hj'

end Cursor

/-- Wherever a parser that gets on stops, it has come there. -/
theorem Proceeded.reaches {G : Token → Prop} {c : Cursor} {V : α → Prop} {x : Parsed α}
    (h : Proceeded G c V x) : c.Reaches (Parsed.cursor x) := by
  cases h with
  | ok hreach | rejected hreach | broken hreach => exact hreach

namespace Grammar

/-! ## Operations -/

/-- What a parser may be asked for: to look, to move on, to take a token, to reject one, to parse a
form of the grammar, or the items of a list, and one after another of these. -/
inductive Operation (d : Dialect) : {α : Type} → Parser α → Prop where
  | pure {α : Type} (a : α) : Operation d (Pure.pure a : Parser α)
  | bind {α β : Type} {p : Parser α} {f : α → Parser β} (hp : Operation d p)
    (hf : ∀ a, Operation d (f a)) : Operation d (p >>= f)
  | peek : Operation d Parser.peek
  | peekAhead (n : Nat) : Operation d (Parser.peekAhead n)
  | advance : Operation d Parser.advance
  | check (kind : TokenKind) : Operation d (Parser.check kind)
  | checkKeyword (word : String) : Operation d (Parser.checkKeyword word)
  | consume (kind : TokenKind) : Operation d (Parser.consume kind)
  | consumeKeyword (word : String) : Operation d (Parser.consumeKeyword word)
  | expect (kind : TokenKind) (expected : String) : Operation d (Parser.expect kind expected)
  | expectKeyword (word : String) : Operation d (Parser.expectKeyword word)
  | expectEndBracket : Operation d Parser.expectEndBracket
  | unexpected {α : Type} (expected : List String) :
    Operation d (Parser.unexpected expected : Parser α)
  | reject {α : Type} (e : ParseError) : Operation d (throw (.rejected e) : Parser α)
  | csv {α : Type} {item : Parser α} (hitem : Operation d item) : Operation d (Parser.csv item)
  | csvToEndBracket {α : Type} {item : Parser α} (hitem : Operation d item) :
    Operation d (Parser.csvToEndBracket item)
  /-- The text of a string literal, wherever the cursor is. -/
  | stringValue {t : Token} (ht : t.kind = .stringLiteral) : Operation d (stringValue d t)
  | identifier : Operation d identifier
  | dataType : Operation d (dataType d)
  | operand (least : Nat) : Operation d (operand d least)
  | expression : Operation d (expression d)
  | aliasedExpression : Operation d (aliasedExpression d)
  | functionCall : Operation d (functionCall d)
  /-- The rest of a call, behind the opening bracket. -/
  | callRest (name : Token) (callSyntax : CallSyntax) :
    Operation d (callRest d (Grammar.operand d) name callSyntax)
  | select : Operation d (select d)
  | statement : Operation d (statement d)
  | statements : Operation d (statements d)

/-- The operations that take a token, if they give a value. -/
inductive Takes (d : Dialect) : {α : Type} → Parser α → Prop where
  | identifier : Takes d identifier
  | dataType : Takes d (dataType d)
  | expression : Takes d (expression d)
  | aliasedExpression : Takes d (aliasedExpression d)
  | functionCall : Takes d (functionCall d)
  | select : Takes d (select d)
  | statement : Takes d (statement d)

/-- A cursor where some tokens may be left: the first one, or one where an operation has stopped
which was begun at such a cursor, with a value or not. -/
inductive Reachable (d : Dialect) (tokens : List Token) : Cursor → Prop where
  | start : Reachable d tokens (.ofTokens tokens)
  | after {α : Type} {p : Parser α} {c : Cursor} (h : Reachable d tokens c) (hp : Operation d p) :
    Reachable d tokens (Parsed.cursor (p c))

variable {G : Token → Prop} {d : Dialect} {m : Nat} {p : Parser α} {tokens : List Token}
  {c c' : Cursor}

theorem proceeds_functionCall : Proceeds G m (functionCall d) fun _ => True :=
  (proceeds_call proceeds_operand).mono (Nat.le_succ m)

theorem proceeds_select : Proceeds G m (select d) fun _ => True :=
  (proceeds_query proceeds_operand).mono (Nat.le_succ m)

theorem proceeds_statements : Proceeds G m (statements d) fun _ => False :=
  proceeds_many_nextStatement?.bind fun _ => Proceeds.note_bind _ (Proceeds.pure id)

/-- **Every operation gets on, whatever the tokens are.** -/
theorem proceeds_of_operation (h : Operation d p) (m : Nat) :
    Proceeds (fun _ => True) m p fun _ => False := by
  induction h with
  | pure a => exact Proceeds.pure id
  | bind _ _ ihp ihf => exact ihp.bind ihf
  | peek => exact Proceeds.peek
  | peekAhead n => exact Proceeds.peekAhead n
  | advance => exact Proceeds.advance.free
  | check kind => exact Proceeds.check kind
  | checkKeyword word => exact Proceeds.checkKeyword word
  | consume kind => exact (Proceeds.consumes kind).free
  | consumeKeyword word => exact (Proceeds.consumeKeyword word).free
  | expect kind expected => exact (Proceeds.expect kind expected).free
  | expectKeyword word => exact (Proceeds.expectKeyword word).free
  | expectEndBracket => exact (Proceeds.expect _ _).free
  | unexpected expected => exact Proceeds.unexpected expected _
  | reject e => exact fun c _ _ => .rejected (.refl c)
  | csv _ ih => exact Proceeds.csv ih
  | csvToEndBracket _ ih => exact (Proceeds.csvToEndBracket ih).free
  | stringValue ht => exact proceeds_stringValue trivial ht
  | identifier => exact proceeds_identifier.free
  | dataType => exact proceeds_dataType.free
  | operand least => exact (proceeds_operand least).free
  | expression => exact (proceeds_operand 0).free
  | aliasedExpression => exact (proceeds_namedExpression proceeds_operand).free
  | functionCall => exact proceeds_functionCall.free
  | callRest name callSyntax => exact proceeds_callRest proceeds_operand callSyntax
  | select => exact proceeds_select.free
  | statement => exact proceeds_statement.free
  | statements => exact proceeds_statements

theorem proceeds_of_takes (h : Takes d p) (m : Nat) : Proceeds G m p fun _ => True := by
  cases h with
  | identifier => exact proceeds_identifier
  | dataType => exact proceeds_dataType
  | expression => exact proceeds_operand 0
  | aliasedExpression => exact proceeds_namedExpression proceeds_operand
  | functionCall => exact proceeds_functionCall
  | select => exact proceeds_select
  | statement => exact proceeds_statement

/-- Where an operation may begin is reached from the first token. -/
theorem Reachable.reaches (h : Reachable d tokens c) : (Cursor.ofTokens tokens).Reaches c := by
  induction h with
  | start => exact .refl _
  | @after _ p c _ hp ih =>
    have hc := (Cursor.among_ofTokens tokens).of_reaches ih
    exact ih.trans (proceeds_of_operation hp _ c hc (Nat.lt_succ_self _)).reaches

/-! ## The end of all statements -/

theorem endedStatement_ne_none : endedStatement d c ≠ .ok none c' := by
  intro h
  obtain ⟨e, c₁, -, hrest⟩ := Parser.bind_eq_ok.1 h
  rw [Parser.bind_of_ok (Parser.peek_run c₁)] at hrest
  split at hrest <;> cases hrest

/-- No statement is found only on an end. -/
theorem kind_of_nextStatement?_eq_none (h : nextStatement? d c = .ok none c') :
    c'.current.kind = .endOfFile := by
  rw [nextStatement?_eq] at h
  obtain ⟨_, c₁, -, hrest⟩ := Parser.bind_eq_ok.1 h
  rw [Parser.bind_of_ok (Parser.check_run .endOfFile c₁)] at hrest
  cases hend : c₁.current.kind == .endOfFile with
  | true =>
    rw [hend] at hrest
    cases hrest
    exact beq_iff_eq.1 hend
  | false =>
    rw [hend] at hrest
    exact absurd hrest endedStatement_ne_none

/-- Where all statements were found, the cursor is on an end. -/
theorem kind_of_statements {es : List Expr} (h : statements d c = .ok es c') :
    c'.current.kind = .endOfFile := by
  obtain ⟨found, c₁, hmany, hrest⟩ := Parser.bind_eq_ok.1 h
  have hend : c₁.current.kind = .endOfFile :=
    Parser.many_induction (P := fun _ _ => c₁.current.kind = .endOfFile)
      (fun _ hnone => kind_of_nextStatement?_eq_none hnone) (fun _ _ _ _ _ _ hend => hend) hmany
  cases hrest
  exact hend

end Grammar

open Cursor (StandsAt firstEnd)
open Grammar (Operation Takes Reachable)

/-- **A parser gets on whatever the tokens are and whatever it is asked for.**  Wherever it may
stand, that is at an index up to the first end.  From there every operation stops, with a value, a
rejection or the fault of a broken literal, at an index which is not less, nor behind the first end.
It is greater where a name, a type, an expression, a call, a query or a statement was found; and
where all statements were found, the end is there. -/
theorem operations_get_on (d : Dialect) (tokens : List Token) {c : Cursor}
    (hc : Reachable d tokens c) :
    ∃ i ≤ firstEnd tokens, StandsAt tokens i c ∧
      (∀ {α : Type} {p : Parser α}, Operation d p →
        (∀ f c', p c = .error (.fault f) c' → f = .brokenLiteral) ∧
        ∃ j, i ≤ j ∧ j ≤ firstEnd tokens ∧ StandsAt tokens j (Parsed.cursor (p c))) ∧
      (∀ {α : Type} {p : Parser α}, Takes d p → ∀ a c', p c = .ok a c' →
        ∃ j, i < j ∧ j ≤ firstEnd tokens ∧ StandsAt tokens j c') ∧
      ∀ es c', Grammar.statements d c = .ok es c' → c'.current.kind = .endOfFile := by
  have hreach := hc.reaches
  have hamong := (Cursor.among_ofTokens tokens).of_reaches hreach
  obtain ⟨i, hi, hstands⟩ := Cursor.exists_standsAt_of_reaches hreach
  refine ⟨i, hi, hstands, fun hp => ?_, fun hp a c' hrun => ?_,
    fun es c' hrun => Grammar.kind_of_statements hrun⟩
  · have hproceeds := Grammar.proceeds_of_operation hp _ c hamong (Nat.lt_succ_self _)
    obtain ⟨j, hj, hstands'⟩ :=
      Cursor.exists_standsAt_of_reaches (hreach.trans hproceeds.reaches)
    refine ⟨fun f c' hrun => ?_, j,
      (hstands.le_iff hstands').2 hproceeds.reaches.remaining_le, hj, hstands'⟩
    rw [hrun] at hproceeds
    cases hproceeds
    rfl
  · have hproceeds := Grammar.proceeds_of_takes hp _ c hamong (Nat.lt_succ_self _)
    rw [hrun] at hproceeds
    obtain ⟨hreach', hlt⟩ := hproceeds.of_ok
    obtain ⟨j, hj, hstands'⟩ := Cursor.exists_standsAt_of_reaches (hreach.trans hreach')
    exact ⟨j, (hstands.lt_iff hstands').2 (hlt trivial), hj, hstands'⟩

/-- A parser that stopped at half a literal, before an end that is not the last token, is asked for
an expression again. -/
theorem operations_get_on_broken :
    let d := Dialect.builtin .ansi none
    let tokens : List Token :=
      [⟨.word, "a", {}⟩, ⟨.plus, "+", {}⟩, ⟨.stringLiteral, "'", {}⟩, .endOfFile {},
        ⟨.comma, ",", {}⟩]
    let c := Parsed.cursor (Grammar.expression d (.ofTokens tokens))
    Reachable d tokens c ∧ c.current.kind = .endOfFile ∧ firstEnd tokens = 3 ∧
      ∃ i ≤ 3, StandsAt tokens i c ∧
        ∃ j, i ≤ j ∧ j ≤ 3 ∧ StandsAt tokens j (Parsed.cursor (Grammar.expression d c)) := by
  intro d tokens c
  have hc : Reachable d tokens c := .after .start .expression
  have hend : firstEnd tokens = 3 := by decide
  obtain ⟨i, hi, hstands, hops, -, -⟩ := operations_get_on d tokens hc
  rw [hend] at hi hops
  exact ⟨hc, by decide +kernel, hend, i, hi, hstands, (hops .expression).2⟩

end SqlDialects
