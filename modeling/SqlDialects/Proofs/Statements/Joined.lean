import SqlDialects.Proofs.RoundTrip.SameDialect
import SqlDialects.Proofs.Statements.Outcome

/-!
# Lists of statements compose

Two texts with a semicolon on a line of its own between them are read as the one
and then the other.  If the first text is read, the statements of the second come
behind those of the first, and whatever is wrong with the second text is wrong with
the whole, in the same words and as many lines and bytes further on.

For tokens that was seen when the texts were cut (`DialectName.lex_behind`).  For
statements there are two comparisons of runs.  While the first text lasts, the run
on it and the run on the whole are a pair of the kind `Pairing.continuedBy`: the
same tokens, and an end in the one where the other has a semicolon.  Behind that the
run on the whole and the run on the second text are paired token by token, and the
places of the tokens are all that tells them apart.
-/

namespace SqlDialects

open Grammar (nextStatement?)

/-! ## An input that goes on where another ends -/

/-- Two inputs with the same tokens, up to where the first ends and the second goes on: behind a
semicolon, with the tokens `later`. -/
inductive ContinuedBy (later : List Token) : List Token → List Token → Prop where
  | ends {finish semicolon : Token} (hfinish : finish.kind = .endOfFile)
    (hsemicolon : semicolon.kind = .semicolon) :
    ContinuedBy later [finish] (semicolon :: later)
  | cons {t : Token} {ts ts' : List Token} (ht : t.kind ≠ .endOfFile)
    (hrest : ContinuedBy later ts ts') : ContinuedBy later (t :: ts) (t :: ts')

/-- Two tokens that are the same, or both end a statement. -/
def Token.SameOrEnds (t t' : Token) : Prop :=
  t' = t ∨ t.kind.endsStatement = true ∧ t'.kind.endsStatement = true

namespace ContinuedBy

variable {later ts ts' : List Token} {c c' : Cursor}

theorem of_append {front : List Token} {finish semicolon : Token}
    (hfront : ∀ t ∈ front, t.kind ≠ .endOfFile) (hfinish : finish.kind = .endOfFile)
    (hsemicolon : semicolon.kind = .semicolon) :
    ContinuedBy later (front ++ [finish]) (front ++ semicolon :: later) := by
  induction front with
  | nil => exact .ends hfinish hsemicolon
  | cons t front ih =>
    obtain ⟨ht, hfront⟩ := List.forall_mem_cons.1 hfront
    exact .cons ht (ih hfront)

theorem length_eq (h : ContinuedBy later ts ts') : ts'.length = ts.length + later.length := by
  induction h with
  | ends => exact Nat.add_comm _ 1
  | cons _ _ ih =>
    rw [List.length_cons, List.length_cons, ih]
    omega

theorem ne_nil (h : ContinuedBy later ts ts') : ts ≠ [] ∧ ts' ≠ [] := by
  cases h <;> exact ⟨List.cons_ne_nil _ _, List.cons_ne_nil _ _⟩

theorem sameOrEnds {t t' : Token} (h : ContinuedBy later (t :: ts) (t' :: ts')) :
    t.SameOrEnds t' := by
  cases h with
  | ends hfinish hsemicolon => exact Or.inr ⟨by rw [hfinish]; rfl, by rw [hsemicolon]; rfl⟩
  | cons _ _ => exact Or.inl rfl

theorem next (h : ContinuedBy later c.tokens c'.tokens)
    (hends : c.current.kind.endsStatement = false) : (c.peek 1).SameOrEnds (c'.peek 1) := by
  obtain ⟨t, ts, ms⟩ := c
  obtain ⟨t', ts', ms'⟩ := c'
  cases h with
  | ends hfinish _ =>
    rw [hfinish] at hends
    cases hends
  | cons _ hrest =>
    obtain ⟨u, us, rfl⟩ := List.exists_cons_of_ne_nil hrest.ne_nil.1
    obtain ⟨u', us', rfl⟩ := List.exists_cons_of_ne_nil hrest.ne_nil.2
    exact hrest.sameOrEnds

theorem advance (h : ContinuedBy later c.tokens c'.tokens) (hend : c.current.kind ≠ .endOfFile) :
    ContinuedBy later c.advance.tokens c'.advance.tokens := by
  obtain ⟨t, ts, ms⟩ := c
  obtain ⟨t', ts', ms'⟩ := c'
  cases h with
  | ends hfinish _ => exact absurd hfinish hend
  | cons ht hrest =>
    rw [Cursor.tokens_advance rfl hrest.ne_nil.1 ht, Cursor.tokens_advance rfl hrest.ne_nil.2 ht]
    exact hrest

end ContinuedBy

/-- The pairing of an input with one that goes on where it ends. -/
def Pairing.continuedBy (later : List Token) : Pairing where
  tokens := Token.SameOrEnds
  cursors c c' := ContinuedBy later c.tokens c'.tokens
  surplus := later.length
  alike := by
    rintro t t' (rfl | h)
    · exact Or.inl ⟨rfl, rfl, fun _ => rfl⟩
    · exact Or.inr h
  current h := h.sameOrEnds
  next h := h.next
  advance h hends _ := h.advance fun hend => by
    rw [hend] at hends
    cases hends
  remaining h := by
    have hlength := h.length_eq
    rw [Cursor.length_tokens, Cursor.length_tokens] at hlength
    omega
  note _ _ h := h

/-! ## One statement -/

variable {d : Dialect} {later : List Token} {c c' : Cursor}

/-- **The next statement of an input that goes on**: it is the next one of the input that ends, if
there is one; otherwise it is the first of what follows. -/
theorem nextStatement?_continued (hlater : later ≠ [])
    (h : ContinuedBy later c.tokens c'.tokens) :
    (∃ e cl, nextStatement? d c = .ok none e ∧ cl.tokens = later ∧
        cl.remaining < c'.remaining ∧ nextStatement? d c' = nextStatement? d cl) ∨
      (Pairing.continuedBy later).Same (fun o o' => o' = o ∧ o ≠ none)
        (nextStatement? d c) (nextStatement? d c') := by
  generalize hts : c.tokens = ts at h
  generalize hts' : c'.tokens = ts' at h
  induction h generalizing c c' with
  | ends hfinish hsemicolon =>
    refine Or.inl ⟨c, c'.advance, ?_, ?_, ?_, ?_⟩
    · have hkind : c.current.kind = .endOfFile := Cursor.current_of_tokens hts ▸ hfinish
      rw [Grammar.nextStatement?_of_ne (by rw [hkind]; decide), hkind]
      rfl
    · exact Cursor.tokens_advance hts' hlater (by rw [hsemicolon]; decide)
    · exact Cursor.remaining_advance_lt hts' hlater (by rw [hsemicolon]; decide)
    · refine Grammar.nextStatement?_of_semicolon ?_ ?_
      · exact Cursor.current_of_tokens hts' ▸ hsemicolon
      · exact Cursor.remaining_advance_lt hts' hlater (by rw [hsemicolon]; decide)
  | @cons t ts ts' ht hrest ih =>
    have hcurrent := Cursor.current_of_tokens hts
    have hcurrent' := Cursor.current_of_tokens hts'
    have hlt := Cursor.remaining_advance_lt hts hrest.ne_nil.1 ht
    have hlt' := Cursor.remaining_advance_lt hts' hrest.ne_nil.2 ht
    by_cases hsemicolon : t.kind = .semicolon
    · rw [Grammar.nextStatement?_of_semicolon (hcurrent ▸ hsemicolon) hlt,
        Grammar.nextStatement?_of_semicolon (hcurrent' ▸ hsemicolon) hlt']
      have hnext := ih (Cursor.tokens_advance hts hrest.ne_nil.1 ht)
        (Cursor.tokens_advance hts' hrest.ne_nil.2 ht)
      refine hnext.imp_left ?_
      rintro ⟨e, cl, hnone, hcl, hremaining, hrun⟩
      exact ⟨e, cl, hnone, hcl, Nat.lt_trans hremaining hlt', hrun⟩
    · refine Or.inr ?_
      rw [Grammar.nextStatement?_of_ne (hcurrent ▸ hsemicolon),
        Grammar.nextStatement?_of_ne (hcurrent' ▸ hsemicolon), hcurrent, hcurrent',
        beq_eq_false_iff_ne.2 ht]
      refine Grammar.inStep_endedStatement.run rfl ?_
      show ContinuedBy later c.tokens c'.tokens
      rw [hts, hts']
      exact .cons ht hrest

/-- Where no statement is left in the input that ends, what follows comes next in the other. -/
theorem nextStatement?_of_none (hlater : later ≠ []) (h : ContinuedBy later c.tokens c'.tokens)
    {e : Cursor} (hnone : nextStatement? d c = .ok none e) :
    ∃ cl, cl.tokens = later ∧ cl.remaining < c'.remaining ∧
      nextStatement? d c' = nextStatement? d cl := by
  rcases nextStatement?_continued (d := d) hlater h with ⟨-, cl, -, hcl⟩ | hsame
  · exact ⟨cl, hcl⟩
  · rw [hnone] at hsame
    generalize nextStatement? d c' = x' at hsame
    cases hsame with
    | ok ho _ => exact absurd rfl ho.2

/-- A statement of the input that ends is one of the other, and the rests are of the same kind. -/
theorem nextStatement?_of_some (hlater : later ≠ []) (h : ContinuedBy later c.tokens c'.tokens)
    {e : Expr} {c₁ : Cursor} (hsome : nextStatement? d c = .ok (some e) c₁) :
    ∃ c₁', nextStatement? d c' = .ok (some e) c₁' ∧ ContinuedBy later c₁.tokens c₁'.tokens := by
  rcases nextStatement?_continued (d := d) hlater h with ⟨_, _, hnone, -⟩ | hsame
  · rw [hsome] at hnone
    cases hnone
  · rw [hsome] at hsame
    generalize nextStatement? d c' = x' at hsame
    cases hsame with
    | ok ho hc =>
      obtain ⟨rfl, -⟩ := ho
      exact ⟨_, rfl, hc⟩

/-! ## All statements -/

/-- Repetition is the same from two cursors if its first round is, and it does not stall. -/
theorem Parser.many_eq_of_run {α : Type} {item : Parser (Option α)} {c c' : Cursor}
    (h : item c' = item c) (hle : c.remaining ≤ c'.remaining)
    (hstalls : ∀ e, Parser.many item c ≠ .error (.fault .stalled) e) :
    Parser.many item c' = Parser.many item c := by
  cases hi : item c with
  | error e c₁ => rw [many_of_error hi, many_of_error (h.trans hi)]
  | ok found c₁ =>
    cases found with
    | none => rw [many_of_none hi, many_of_none (h.trans hi)]
    | some a =>
      by_cases hlt : c₁.remaining < c.remaining
      · have hlt' := Nat.lt_of_lt_of_le hlt hle
        cases hrest : Parser.many item c₁ with
        | ok as c₂ =>
          rw [many_of_some_of_ok hi hlt hrest, many_of_some_of_ok (h.trans hi) hlt' hrest]
        | error e c₂ =>
          rw [many_of_some_of_error hi hlt hrest, many_of_some_of_error (h.trans hi) hlt' hrest]
      · exact absurd (many_of_stalled hi hlt) (hstalls c₁)

/-- **All statements of an input that goes on**: those of the input that ends, if it has no others,
and behind them those of what follows. -/
theorem many_nextStatement?_continued {Q : Pairing} (hQ : Q.Throughout) {c₂ : Cursor}
    (hlater : later ≠ []) (hsecond : ∀ cl, cl.tokens = later → Q.cursors c₂ cl)
    (hfault : ∀ f e, Parser.many (nextStatement? d) c₂ ≠ .error (.fault f) e)
    (h : ContinuedBy later c.tokens c'.tokens) {es : List Expr} {e : Cursor}
    (hrun : Parser.many (nextStatement? d) c = .ok es e) :
    Q.Same (fun later whole => whole = es ++ later)
      (Parser.many (nextStatement? d) c₂) (Parser.many (nextStatement? d) c') := by
  generalize hn : c.remaining = n
  induction n using Nat.strongRecOn generalizing c c' es with
  | ind n ih =>
    rcases Parser.of_many_eq_ok hrun with ⟨rfl, hnone⟩ | ⟨a, c₁, as, hsome, hlt, hrest, rfl⟩
    · obtain ⟨cl, hcl, hle, hnext⟩ := nextStatement?_of_none hlater h hnone
      have hsame : Q.Same Eq (Parser.many (nextStatement? d) c₂)
          (Parser.many (nextStatement? d) cl) :=
        (Pairing.InStep.many hQ.nextStatement?).run hQ.endless (hsecond cl hcl)
      rw [Parser.many_eq_of_run hnext (Nat.le_of_lt hle)]
      · exact hsame.mono fun _ _ heq => heq.symm
      · intro e' hstall
        rw [hstall] at hsame
        generalize Parser.many (nextStatement? d) c₂ = x at hsame hfault
        cases hsame with
        | fault _ => exact hfault _ _ rfl
    · obtain ⟨c₁', hsome', hc₁⟩ := nextStatement?_of_some hlater h hsome
      have hlt' := ((Pairing.continuedBy later).remaining_lt_iff h hc₁).2 hlt
      have hsame := ih c₁.remaining (hn ▸ hlt) hc₁ hrest rfl
      revert hsame
      generalize Parser.many (nextStatement? d) c₂ = x
      generalize hy : Parser.many (nextStatement? d) c₁' = y
      rintro (⟨rfl, hc⟩ | ⟨ht, hc⟩ | hc)
      · rw [Parser.many_of_some_of_ok hsome' hlt' hy]
        exact .ok rfl hc
      · rw [Parser.many_of_some_of_error hsome' hlt' hy]
        exact .rejected ht hc
      · rw [Parser.many_of_some_of_error hsome' hlt' hy]
        exact .fault hc

/-! ## Texts -/

/-- The pairing of a text with itself behind some lines. -/
def Pairing.behind (before : List Char) : Pairing :=
  .pointwise (fun t t' => t' = t.behind before) (by rintro t _ rfl; exact ⟨rfl, rfl, fun _ => rfl⟩)

/-- If one text is read and another is cut to its end, then in the two together the statements of
the second come behind those of the first, and what is wrong with the second is wrong with both. -/
theorem many_nextStatement?_behind {n : DialectName} {text later : String} {tokens ts : List Token}
    (hlex : n.lexer.lex text = .ok tokens) (hlater : n.lexer.lex later = .ok ts)
    {es : List Expr} {e : Cursor}
    (hrun : Parser.many (nextStatement? d) (.ofTokens tokens) = .ok es e)
    (hfault : ∀ f e, Parser.many (nextStatement? d) (.ofTokens ts) ≠ .error (.fault f) e) :
    ∃ whole, n.lexer.lex (text ++ "\n;\n" ++ later) = .ok whole ∧
      (Pairing.behind (text ++ "\n;\n").toList).Same (fun fs all => all = es ++ fs)
        (Parser.many (nextStatement? d) (.ofTokens ts))
        (Parser.many (nextStatement? d) (.ofTokens whole)) := by
  obtain ⟨front, finish, semicolon, hfront, hends, hsemicolon, hbehind⟩ := n.lex_behind hlex
  have hwhole := hbehind later
  rw [hlater] at hwhole
  have hsecond : ts.map (Token.behind (text ++ "\n;\n").toList) ≠ [] := by
    obtain ⟨-, -, finish', rfl⟩ := Lexer.of_lex_eq_ok hlater
    simp
  refine ⟨_, hwhole, many_nextStatement?_continued (Pairing.throughout_pointwise _) hsecond
    (fun cl hcl => ?_) hfault ?_ hrun⟩
  · show List.Forall₂ _ _ _
    rw [hcl, Lexer.tokens_ofTokens hlater, List.forall₂_map_right_iff]
    exact List.forall₂_same.2 fun _ _ => rfl
  · rw [Lexer.tokens_ofTokens hwhole, Lexer.tokens_ofTokens hlex, hfront]
    exact .of_append hends rfl hsemicolon

/-- **Lists of statements compose.**  If a dialect reads `text`, then in `text` with a semicolon on
a line of its own and `later` behind it, the dialect reads the statements of both; or what is wrong
with `later` is wrong with the whole, in the same words, and lies behind the first text and the
semicolon. -/
theorem parse_joined (name : DialectName) (config? : Option Setting) {text : String}
    {es : List Expr} (h : ((Dialect.builtin name config?).parse text).outcome = .ok es)
    (later : String) :
    (∀ fs, ((Dialect.builtin name config?).parse later).outcome = .ok fs →
      ((Dialect.builtin name config?).parse (text ++ "\n;\n" ++ later)).outcome =
        .ok (es ++ fs)) ∧
    (∀ e, ((Dialect.builtin name config?).parse later).outcome = .error (.parse e) →
      ∃ e', ((Dialect.builtin name config?).parse (text ++ "\n;\n" ++ later)).outcome =
          .error (.parse e') ∧
        e'.description = e.description ∧ e'.expected = e.expected ∧
        e'.token.text = e.token.text ∧
        e'.token.span = e.token.span.behind (text ++ "\n;\n").toList) ∧
    (∀ e, ((Dialect.builtin name config?).parse later).outcome = .error (.lex e) →
      ∃ e', ((Dialect.builtin name config?).parse (text ++ "\n;\n" ++ later)).outcome =
          .error (.lex e') ∧
        e'.cause = e.cause ∧ e'.span = e.span.behind (text ++ "\n;\n").toList) := by
  have hd := name.makes_builtin config?
  generalize Dialect.builtin name config? = d at h hd ⊢
  obtain ⟨tokens, c, hlex, hmany⟩ := (Dialect.outcome_parse_eq_ok hd).1 h
  refine ⟨fun fs hlater => ?_, fun e hlater => ?_, fun e hlater => ?_⟩
  · obtain ⟨ts, c₂, hlater, hmany₂⟩ := (Dialect.outcome_parse_eq_ok hd).1 hlater
    obtain ⟨whole, hwhole, hsame⟩ := many_nextStatement?_behind hlex hlater hmany
      fun f c hfault => by
        rw [hmany₂] at hfault
        cases hfault
    refine (Dialect.outcome_parse_eq_ok hd).2 ⟨whole, ?_⟩
    rw [hmany₂] at hsame
    generalize Parser.many (nextStatement? d) (.ofTokens whole) = x at hsame
    cases hsame with
    | @ok _ all _ c' hall _ => exact ⟨c', hwhole, by rw [hall]⟩
  · obtain ⟨ts, c₂, hlater, hmany₂⟩ := (Dialect.outcome_parse_eq_parse hd).1 hlater
    obtain ⟨whole, hwhole, hsame⟩ := many_nextStatement?_behind hlex hlater hmany
      fun f c hfault => by
        rw [hmany₂] at hfault
        cases hfault
    obtain ⟨cause, t⟩ := e
    rw [hmany₂] at hsame
    generalize hx : Parser.many (nextStatement? d) (.ofTokens whole) = x at hsame
    cases hsame with
    | @rejected _ _ t' _ c' ht _ =>
      have ht : t' = t.behind (text ++ "\n;\n").toList := ht
      refine ⟨⟨cause, t'⟩, (Dialect.outcome_parse_eq_parse hd).2 ⟨whole, c', hwhole, hx⟩, ?_⟩
      rw [ht]
      exact ⟨rfl, rfl, rfl, rfl⟩
  · have hlater := (Dialect.outcome_parse_eq_lex hd).1 hlater
    obtain ⟨_, _, _, -, -, -, hbehind⟩ := name.lex_behind hlex
    have hwhole := hbehind later
    rw [hlater] at hwhole
    exact ⟨_, (Dialect.outcome_parse_eq_lex hd).2 hwhole, rfl, rfl⟩

/-- A comment that runs to the end of the first text does not reach the second. -/
theorem parse_joined_comment :
    let d := Dialect.builtin .clickhouse none
    let e : Expr := .aliased (.identifier ⟨"a", false⟩) ⟨"b", false⟩
    let f : Expr := .literal (.number "1")
    (d.parse "a AS b -- c").outcome = .ok [e] ∧ (d.parse "1; 1").outcome = .ok [f, f] ∧
      (d.parse "a AS b -- c\n;\n1; 1").outcome = .ok [e, f, f] := by
  intro d e f
  have hfirst : (d.parse "a AS b -- c").outcome = .ok [e] := by decide +kernel
  have hsecond : (d.parse "1; 1").outcome = .ok [f, f] := by decide +kernel
  exact ⟨hfirst, hsecond, (parse_joined .clickhouse none hfirst "1; 1").1 _ hsecond⟩

end SqlDialects
