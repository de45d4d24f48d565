import Mathlib.Data.List.DropRight
import SqlDialects.Expr.Equality
import SqlDialects.Proofs.Statements.Faultless

/-!
# One statement, or a list of one

A text can be read as a list of statements or as a single one, and the two ways treat
semicolons differently.  The list passes over any number of them, before a statement
and behind it.  The single statement has to come first, and one semicolon may follow.
So both read the same statement exactly where no semicolon comes first and at most one
comes last (`Dialect.outcome_parseOne_eq_ok_iff`).

What makes this a matter of counting is that a statement takes at least one token and
passes no semicolon.  The semicolons behind it are therefore the ones that the text ends
with: `StandsAlone` says that the tokens are those of a statement and some semicolons,
and either way of reading is one condition on how many.
-/

namespace SqlDialects

open Grammar (statement endedStatement nextStatement? onlyStatement)

/-- Tokens that end, and end once. -/
def EndOnce (ts : List Token) : Prop :=
  ∃ front finish, ts = front ++ [finish] ∧ (∀ t ∈ front, t.kind ≠ .endOfFile) ∧
    finish.kind = .endOfFile

/-- The semicolons that some tokens have before their end. -/
def trailingSemicolons (ts : List Token) : List Token :=
  ts.dropLast.rtakeWhile (·.kind == .semicolon)

namespace EndOnce

variable {t : Token} {ts us : List Token}

theorem of_suffix (h : EndOnce us) (hts : ts ≠ []) (hsuffix : ts <:+ us) : EndOnce ts := by
  obtain ⟨front, finish, rfl, hfront, hfinish⟩ := h
  rcases List.suffix_concat_iff.1 hsuffix with hnil | ⟨front', rfl, hfront'⟩
  · exact absurd hnil hts
  · exact ⟨front', finish, rfl, fun t ht => hfront t (hfront'.subset ht), hfinish⟩

/-- Before the end there are more tokens, and they end once. -/
theorem of_cons (h : EndOnce (t :: ts)) (ht : t.kind ≠ .endOfFile) : ts ≠ [] ∧ EndOnce ts := by
  have hne : ts ≠ [] := by
    rintro rfl
    obtain ⟨front, finish, heq, -, hfinish⟩ := h
    have heq : [] ++ [t] = front ++ [finish] := heq
    obtain ⟨-, heq⟩ := List.append_inj' heq rfl
    exact ht ((List.cons.inj heq).1 ▸ hfinish)
  exact ⟨hne, h.of_suffix hne (List.suffix_cons t ts)⟩

/-- The end is the last token. -/
theorem eq_nil_of_cons (h : EndOnce (t :: ts)) (ht : t.kind = .endOfFile) : ts = [] := by
  obtain ⟨front, finish, heq, hfront, -⟩ := h
  cases front with
  | nil => exact (List.cons.inj heq).2
  | cons u front =>
    obtain ⟨rfl, -⟩ := List.cons.inj heq
    exact absurd ht (hfront _ List.mem_cons_self)

end EndOnce

/-- Some semicolons, and the end. -/
inductive OnlySemicolons : List Token → List Token → Prop where
  | ends {finish : Token} (hfinish : finish.kind = .endOfFile) : OnlySemicolons [] [finish]
  | cons {t : Token} {semicolons ts : List Token} (ht : t.kind = .semicolon)
    (hrest : OnlySemicolons semicolons ts) : OnlySemicolons (t :: semicolons) (t :: ts)

namespace OnlySemicolons

variable {t : Token} {passed semicolons ts : List Token}

theorem exists_finish (h : OnlySemicolons semicolons ts) :
    (∀ t ∈ semicolons, t.kind = .semicolon) ∧ ∃ finish, ts = semicolons ++ [finish] := by
  induction h with
  | ends _ => exact ⟨nofun, _, rfl⟩
  | cons ht _ ih =>
    obtain ⟨hkinds, finish, rfl⟩ := ih
    exact ⟨List.forall_mem_cons.2 ⟨ht, hkinds⟩, finish, rfl⟩

/-- Tokens that are no semicolons come to an end before the semicolons. -/
theorem trailingSemicolons_append (h : OnlySemicolons semicolons ts)
    (hpassed : ∀ t ∈ passed, t.kind.endsStatement = false) :
    trailingSemicolons (passed ++ ts) = semicolons := by
  obtain ⟨hkinds, finish, rfl⟩ := h.exists_finish
  have hsemicolons : ∀ t ∈ semicolons.reverse, (t.kind == .semicolon) = true := fun t ht =>
    beq_iff_eq.2 (hkinds t (List.mem_reverse.1 ht))
  have hstops : passed.reverse.takeWhile (·.kind == .semicolon) = [] := by
    cases hrev : passed.reverse with
    | nil => rfl
    | cons t ts =>
      refine List.takeWhile_cons_of_neg fun ht => ?_
      have hmem : t ∈ passed := List.mem_reverse.1 (hrev ▸ List.mem_cons_self)
      have hends := hpassed t hmem
      rw [beq_iff_eq.1 ht] at hends
      cases hends
  rw [trailingSemicolons, ← List.append_assoc, List.dropLast_concat, List.rtakeWhile,
    List.reverse_append, List.takeWhile_append_of_pos hsemicolons, hstops, List.append_nil,
    List.reverse_reverse]

/-- A cursor before semicolons stands where a statement ends. -/
theorem endsStatement_current {c : Cursor} (h : OnlySemicolons semicolons c.tokens) :
    c.current.kind.endsStatement = true := by
  obtain ⟨current, ahead, notes⟩ := c
  cases h with
  | ends hfinish => exact TokenKind.endsStatement_iff.2 (Or.inr hfinish)
  | cons ht _ => exact TokenKind.endsStatement_iff.2 (Or.inl ht)

end OnlySemicolons

variable {d : Dialect} {c c' : Cursor} {e : Expr} {semicolons : List Token}

/-- Before its end a cursor among tokens that end once has more of them ahead. -/
theorem Cursor.advance_of_endOnce (h : EndOnce c.tokens) (hc : c.current.kind ≠ .endOfFile) :
    c.tokens = c.current :: c.advance.tokens ∧ EndOnce c.advance.tokens ∧
      c.advance.remaining < c.remaining := by
  obtain ⟨hne, hrest⟩ := EndOnce.of_cons h hc
  have hadvance : c.advance.tokens = c.ahead := tokens_advance rfl hne hc
  rw [hadvance]
  exact ⟨rfl, hrest, remaining_advance_lt (t := c.current) rfl hne hc⟩

namespace Grammar

/-! ## A statement and what is behind it -/

/-- A statement takes a token. -/
theorem remaining_lt_of_statement (hc : c.Intact) (h : statement d c = .ok e c') :
    c'.remaining < c.remaining := by
  have hrun := proceeds_statement (d := d) c hc (Nat.lt_succ_self _)
  rw [h] at hrun
  exact hrun.of_ok.2 trivial

/-- A statement begins with a token that ends none. -/
theorem endsStatement_of_statement (hc : c.Intact) (h : statement d c = .ok e c') :
    c.current.kind.endsStatement = false := by
  have hlt := remaining_lt_of_statement hc h
  obtain ⟨passed, htokens, hpassed⟩ := exists_passed_of_statement h
  cases passed with
  | nil =>
    have hlength : c.remaining = c'.remaining := Nat.succ.inj (congrArg List.length htokens)
    exact absurd hlt (hlength ▸ Nat.lt_irrefl _)
  | cons t passed =>
    rw [(List.cons.inj htokens).1]
    exact hpassed t List.mem_cons_self

theorem endedStatement_eq_ok_iff {o : Option Expr} : endedStatement d c = .ok o c' ↔
    ∃ e, o = some e ∧ statement d c = .ok e c' ∧ c'.current.kind.endsStatement = true := by
  have hends : ∀ kind : TokenKind,
      (kind == .semicolon || kind == .endOfFile) = kind.endsStatement := by
    intro kind
    cases kind <;> rfl
  cases hrun : statement d c with
  | error failure c₁ =>
    unfold endedStatement
    rw [Parser.bind_of_error hrun]
    exact iff_of_false nofun nofun
  | ok e c₁ =>
    unfold endedStatement
    rw [Parser.bind_of_ok hrun, Parser.bind_of_ok (Parser.peek_run c₁), hends]
    cases hkind : c₁.current.kind.endsStatement with
    | true =>
      constructor
      · rintro ⟨⟩
        exact ⟨e, rfl, rfl, hkind⟩
      · rintro ⟨_, rfl, ⟨⟩, -⟩
        rfl
    | false =>
      refine iff_of_false nofun ?_
      rintro ⟨_, -, ⟨⟩, hkind'⟩
      exact Bool.noConfusion (hkind.symm.trans hkind')

/-- The next statement is one that ends, if no semicolon comes first. -/
theorem nextStatement?_eq_some_iff (hc : c.Intact) (hsemicolon : c.current.kind ≠ .semicolon) :
    nextStatement? d c = .ok (some e) c' ↔
      statement d c = .ok e c' ∧ c'.current.kind.endsStatement = true := by
  rw [nextStatement?_of_ne hsemicolon]
  by_cases hend : c.current.kind = .endOfFile
  · rw [hend]
    refine iff_of_false nofun fun ⟨hrun, _⟩ => ?_
    have hbegins := endsStatement_of_statement hc hrun
    rw [hend] at hbegins
    cases hbegins
  · rw [beq_eq_false_iff_ne.2 hend]
    show endedStatement d c = _ ↔ _
    rw [endedStatement_eq_ok_iff]
    constructor
    · rintro ⟨_, ⟨⟩, hrun⟩
      exact hrun
    · exact fun hrun => ⟨e, rfl, hrun⟩

/-- **No statement is left exactly where only semicolons are.** -/
theorem exists_nextStatement?_eq_none_iff (h : EndOnce c.tokens) :
    (∃ c', nextStatement? d c = .ok none c') ↔
      ∃ semicolons, OnlySemicolons semicolons c.tokens := by
  -- by what is ahead: a semicolon is passed in a round of its own, and anything else decides
  generalize hn : c.remaining = n
  induction n using Nat.strongRecOn generalizing c with
  | ind n ih =>
    subst hn
    by_cases hend : c.current.kind = .endOfFile
    · have hahead : c.ahead = [] := EndOnce.eq_nil_of_cons h hend
      refine iff_of_true ⟨c, ?_⟩ ⟨[], ?_⟩
      · rw [nextStatement?_of_ne (by rw [hend]; decide), hend]
        rfl
      · rw [Cursor.tokens, hahead]
        exact .ends hend
    · obtain ⟨htokens, hrest, hlt⟩ := Cursor.advance_of_endOnce h hend
      rw [htokens]
      by_cases hsemicolon : c.current.kind = .semicolon
      · rw [nextStatement?_of_semicolon hsemicolon hlt, ih _ hlt hrest rfl]
        constructor
        · rintro ⟨semicolons, honly⟩
          exact ⟨_, honly.cons hsemicolon⟩
        · rintro ⟨_, honly⟩
          cases honly with
          | cons _ honly => exact ⟨_, honly⟩
      · refine iff_of_false ?_ ?_
        · rintro ⟨c', hnone⟩
          rw [nextStatement?_of_ne hsemicolon, beq_eq_false_iff_ne.2 hend] at hnone
          obtain ⟨e, hsome, -⟩ := endedStatement_eq_ok_iff.1 hnone
          cases hsome
        · rintro ⟨_, honly⟩
          cases honly with
          | cons ht _ => exact hsemicolon ht

/-! ## The two ways of reading -/

/-- A statement comes first, and behind it there are only semicolons. -/
def StandsAlone (d : Dialect) (c : Cursor) (e : Expr) (semicolons : List Token) : Prop :=
  ∃ c', statement d c = .ok e c' ∧ OnlySemicolons semicolons c'.tokens

/-- The semicolons behind a statement are those that the tokens end with. -/
theorem StandsAlone.trailingSemicolons_eq (h : StandsAlone d c e semicolons) :
    trailingSemicolons c.tokens = semicolons := by
  obtain ⟨c', hrun, honly⟩ := h
  obtain ⟨passed, htokens, hpassed⟩ := exists_passed_of_statement hrun
  rw [htokens]
  exact honly.trailingSemicolons_append hpassed

/-- Behind a statement the tokens still end once. -/
theorem endOnce_of_statement (h : EndOnce c.tokens) (hrun : statement d c = .ok e c') :
    EndOnce c'.tokens := by
  obtain ⟨passed, htokens, -⟩ := exists_passed_of_statement hrun
  exact h.of_suffix (List.cons_ne_nil _ _) (htokens ▸ List.suffix_append passed c'.tokens)

/-- **A list of one statement**, and no semicolon first. -/
theorem exists_many_eq_singleton_iff (hc : c.Intact) (h : EndOnce c.tokens) :
    ((∃ c', Parser.many (nextStatement? d) c = .ok [e] c') ∧ c.current.kind ≠ .semicolon) ↔
      ∃ semicolons, StandsAlone d c e semicolons := by
  constructor
  · rintro ⟨⟨c', hmany⟩, hsemicolon⟩
    obtain ⟨c₁, hnext, -, hnone⟩ := Parser.many_eq_ok_singleton.1 hmany
    obtain ⟨hrun, -⟩ := (nextStatement?_eq_some_iff hc hsemicolon).1 hnext
    obtain ⟨semicolons, honly⟩ :=
      (exists_nextStatement?_eq_none_iff (endOnce_of_statement h hrun)).1 ⟨c', hnone⟩
    exact ⟨semicolons, c₁, hrun, honly⟩
  · rintro ⟨semicolons, c₁, hrun, honly⟩
    have hsemicolon : c.current.kind ≠ .semicolon := by
      intro hkind
      have hbegins := endsStatement_of_statement hc hrun
      rw [hkind] at hbegins
      cases hbegins
    obtain ⟨c', hnone⟩ :=
      (exists_nextStatement?_eq_none_iff (endOnce_of_statement h hrun)).2 ⟨semicolons, honly⟩
    have hnext := (nextStatement?_eq_some_iff hc hsemicolon).2 ⟨hrun, honly.endsStatement_current⟩
    exact ⟨⟨c', Parser.many_eq_ok_singleton.2
      ⟨c₁, hnext, remaining_lt_of_statement hc hrun, hnone⟩⟩, hsemicolon⟩

/-- A semicolon may follow, and then the end has to. -/
theorem exists_onlyStatement_iff_current : (∃ c', onlyStatement d c = .ok e c') ↔
    ∃ c₁, statement d c = .ok e c₁ ∧ (c₁.current.kind = .endOfFile ∨
      c₁.current.kind = .semicolon ∧ c₁.advance.current.kind = .endOfFile) := by
  constructor
  · rintro ⟨c', honly⟩
    obtain ⟨e', c₁, hrun, hrest⟩ := Parser.bind_eq_ok.1 honly
    obtain ⟨_, c₂, hconsume, hrest⟩ := Parser.bind_eq_ok.1 hrest
    obtain ⟨_, c₃, hexpect, ⟨⟩⟩ := Parser.bind_eq_ok.1 hrest
    obtain ⟨found, hconsume⟩ := Parser.discard_eq_ok.1 hconsume
    obtain ⟨t, hexpect⟩ := Parser.discard_eq_ok.1 hexpect
    rw [Parser.expect_run] at hexpect
    split at hexpect
    · rename_i hend
      have hend := beq_iff_eq.1 hend
      refine ⟨c₁, hrun, ?_⟩
      rw [Parser.consume_run] at hconsume
      split at hconsume
      · rename_i hsemicolon
        cases hconsume
        exact Or.inr ⟨beq_iff_eq.1 hsemicolon, hend⟩
      · cases hconsume
        exact Or.inl hend
    · cases hexpect
  · rintro ⟨c₁, hrun, hafter⟩
    have hconsume : ∃ c₂, discard (Parser.consume .semicolon) c₁ = .ok () c₂ ∧
        c₂.current.kind = .endOfFile := by
      rcases hafter with hend | ⟨hsemicolon, hend⟩
      · refine ⟨c₁, Parser.discard_eq_ok.2 ⟨false, ?_⟩, hend⟩
        rw [Parser.consume_run, hend]
        rfl
      · refine ⟨c₁.advance, Parser.discard_eq_ok.2 ⟨true, ?_⟩, hend⟩
        rw [Parser.consume_run, hsemicolon]
        rfl
    obtain ⟨c₂, hconsume, hend⟩ := hconsume
    have hexpect : discard (Parser.expect .endOfFile "end of input") c₂ = .ok () c₂.advance := by
      refine Parser.discard_eq_ok.2 ⟨c₂.current, ?_⟩
      rw [Parser.expect_run, hend]
      rfl
    refine ⟨c₂.advance, ?_⟩
    unfold onlyStatement
    rw [Parser.bind_of_ok hrun, Parser.bind_of_ok hconsume, Parser.bind_of_ok hexpect]
    rfl

/-- **One statement**, and at most one semicolon behind it. -/
theorem exists_onlyStatement_iff (h : EndOnce c.tokens) :
    (∃ c', onlyStatement d c = .ok e c') ↔
      ∃ semicolons, StandsAlone d c e semicolons ∧ semicolons.length < 2 := by
  rw [exists_onlyStatement_iff_current]
  constructor
  · rintro ⟨c₁, hrun, hend | ⟨hsemicolon, hend⟩⟩
    · have hahead : c₁.ahead = [] := EndOnce.eq_nil_of_cons (endOnce_of_statement h hrun) hend
      refine ⟨[], ⟨c₁, hrun, ?_⟩, Nat.zero_lt_two⟩
      rw [Cursor.tokens, hahead]
      exact .ends hend
    · obtain ⟨htokens, hrest, -⟩ := Cursor.advance_of_endOnce (endOnce_of_statement h hrun)
        (by rw [hsemicolon]; decide)
      have hahead : c₁.advance.ahead = [] := EndOnce.eq_nil_of_cons hrest hend
      refine ⟨[c₁.current], ⟨c₁, hrun, ?_⟩, Nat.one_lt_two⟩
      rw [htokens, Cursor.tokens, hahead]
      exact .cons hsemicolon (.ends hend)
  · rintro ⟨semicolons, ⟨c₁, hrun, honly⟩, hlength⟩
    refine ⟨c₁, hrun, ?_⟩
    obtain ⟨current, ahead, notes⟩ := c₁
    cases honly with
    | ends hfinish => exact Or.inl hfinish
    | cons ht hrest =>
      cases hrest with
      | ends hfinish =>
        have hne : current.kind ≠ .endOfFile := by rw [ht]; decide
        refine Or.inr ⟨ht, ?_⟩
        unfold Cursor.advance
        rw [if_neg hne]
        exact hfinish
      | cons _ _ => exact absurd hlength (Nat.not_lt.2 (Nat.le_add_left 2 _))

end Grammar

/-! ## Texts -/

variable {n : DialectName} {text : String} {tokens : List Token}

theorem DialectName.endOnce_of_lex (h : n.lexer.lex text = .ok tokens) : EndOnce tokens := by
  obtain ⟨front, finish, rfl, hfront⟩ := n.exists_front_of_lex h
  exact ⟨front, .endOfFile finish, rfl, hfront, rfl⟩

namespace Dialect

/-- Reading one statement is reading a list of one, if no semicolon comes first and at most one
comes last. -/
theorem outcome_parseOne_eq_ok_iff (hd : n.Makes d) (hlex : n.lexer.lex text = .ok tokens) :
    (d.parseOne text).outcome = .ok e ↔
      (d.parse text).outcome = .ok [e] ∧ tokens.head?.map Token.kind ≠ some .semicolon ∧
        (trailingSemicolons tokens).length < 2 := by
  have htokens := Lexer.tokens_ofTokens hlex
  have hintact := DialectName.intact_ofTokens hlex
  have hends : EndOnce (Cursor.ofTokens tokens).tokens := by
    rw [htokens]
    exact DialectName.endOnce_of_lex hlex
  have hhead : tokens.head?.map Token.kind = some (Cursor.ofTokens tokens).current.kind :=
    congrArg (fun ts => ts.head?.map Token.kind) htokens.symm
  have hone : (d.parseOne text).outcome = .ok e ↔
      ∃ c, onlyStatement d (.ofTokens tokens) = .ok e c := by
    rw [outcome_parseOne hd]
    exact Lexer.read_eq_ok_of_lex hlex
  have hlist : (d.parse text).outcome = .ok [e] ↔
      ∃ c, Parser.many (nextStatement? d) (.ofTokens tokens) = .ok [e] c := by
    rw [outcome_parse hd]
    exact Lexer.read_eq_ok_of_lex hlex
  rw [hone, hlist, hhead, ne_eq, Option.some_inj, ← and_assoc, ← ne_eq,
    Grammar.exists_many_eq_singleton_iff hintact hends, Grammar.exists_onlyStatement_iff hends]
  constructor
  · rintro ⟨semicolons, halone, hlength⟩
    refine ⟨⟨semicolons, halone⟩, ?_⟩
    rwa [← htokens, halone.trailingSemicolons_eq]
  · rintro ⟨⟨semicolons, halone⟩, hlength⟩
    refine ⟨semicolons, halone, ?_⟩
    rwa [← htokens, halone.trailingSemicolons_eq] at hlength

/-- What is wrong with a statement is wrong with it either way. -/
theorem outcome_of_statement_eq_error (hd : n.Makes d) (hlex : n.lexer.lex text = .ok tokens)
    (hsemicolon : (Cursor.ofTokens tokens).current.kind ≠ .semicolon)
    (hend : (Cursor.ofTokens tokens).current.kind ≠ .endOfFile) {failure : ParseFailure}
    (hrun : statement d (.ofTokens tokens) = .error failure c) :
    ∃ e, failure = .rejected e ∧ (d.parseOne text).outcome = .error (.parse e) ∧
      (d.parse text).outcome = .error (.parse e) := by
  have hproceeds := Grammar.proceeds_statement (d := d) _ (DialectName.intact_ofTokens hlex)
    (Nat.lt_succ_self _)
  rw [hrun] at hproceeds
  cases hproceeds with
  | @rejected e _ =>
    have hone : onlyStatement d (.ofTokens tokens) = .error (.rejected e) c :=
      Parser.bind_of_error hrun
    have hended : endedStatement d (.ofTokens tokens) = .error (.rejected e) c :=
      Parser.bind_of_error hrun
    have hnext : nextStatement? d (.ofTokens tokens) = .error (.rejected e) c := by
      rw [Grammar.nextStatement?_of_ne hsemicolon, beq_eq_false_iff_ne.2 hend]
      exact hended
    refine ⟨e, rfl, ?_, (outcome_parse_eq_parse hd).2 ⟨tokens, c, hlex, ?_⟩⟩
    · rw [outcome_parseOne hd]
      exact Lexer.read_eq_parse.2 ⟨tokens, c, hlex, hone⟩
    · exact Parser.many_of_error hnext
  | broken _ hintact hbroken => exact absurd hintact hbroken

/-- A text without tokens is read neither way, for the same reason. -/
theorem outcome_of_lex_eq_error (hd : n.Makes d) {e : SqlError}
    (h : (d.lex text).outcome = .error e) :
    (d.parseOne text).outcome = .error e ∧ (d.parse text).outcome = .error e := by
  rw [outcome_lex hd] at h
  rw [outcome_parseOne hd, outcome_parse hd]
  cases hlex : n.lexer.lex text with
  | ok tokens =>
    rw [hlex] at h
    cases h
  | error e' =>
    rw [hlex] at h
    cases h
    unfold Lexer.read
    rw [hlex]
    exact ⟨rfl, rfl⟩

end Dialect

/-- **The two ways of reading a text agree.**  A text is read as one statement exactly if it is read
as a list of that statement, no semicolon comes first, and it does not end with two semicolons or
more.  Where a statement comes first and is rejected, it is rejected for the same error either way;
and a text that has no tokens has none either way. -/
theorem parseOne_agrees (name : DialectName) (config? : Option Setting) (text : String) :
    (∀ tokens, ((Dialect.builtin name config?).lex text).outcome = .ok tokens →
      (∀ e, ((Dialect.builtin name config?).parseOne text).outcome = .ok e ↔
        ((Dialect.builtin name config?).parse text).outcome = .ok [e] ∧
          tokens.head?.map Token.kind ≠ some .semicolon ∧
          (trailingSemicolons tokens).length < 2) ∧
      (∀ first, tokens.head? = some first → first.kind ≠ .semicolon → first.kind ≠ .endOfFile →
        ∀ failure c, statement (Dialect.builtin name config?) (.ofTokens tokens) =
            .error failure c →
          ∃ e, failure = .rejected e ∧
            ((Dialect.builtin name config?).parseOne text).outcome = .error (.parse e) ∧
            ((Dialect.builtin name config?).parse text).outcome = .error (.parse e))) ∧
    ∀ e, ((Dialect.builtin name config?).lex text).outcome = .error e →
      ((Dialect.builtin name config?).parseOne text).outcome = .error e ∧
        ((Dialect.builtin name config?).parse text).outcome = .error e := by
  have hd := name.makes_builtin config?
  refine ⟨fun tokens hlex => ?_, fun e he => Dialect.outcome_of_lex_eq_error hd he⟩
  have hlex := (Dialect.outcome_lex_eq_ok hd).1 hlex
  refine ⟨fun e => Dialect.outcome_parseOne_eq_ok_iff hd hlex, ?_⟩
  intro first hfirst hsemicolon hend failure c hrun
  have hcurrent : (Cursor.ofTokens tokens).current = first := by
    rw [← Lexer.tokens_ofTokens hlex] at hfirst
    exact Option.some.inj hfirst
  exact Dialect.outcome_of_statement_eq_error hd hlex (hcurrent ▸ hsemicolon) (hcurrent ▸ hend) hrun

/-- One semicolon behind a statement is allowed, and two are not; and what is wrong with a
statement is wrong with it either way. -/
theorem parseOne_agrees_semicolons :
    let d := Dialect.builtin .ansi none
    let a : Expr := .identifier ⟨"a", false⟩
    (d.parseOne "a;").outcome = .ok a ∧ (d.parse "a;;").outcome = .ok [a] ∧
      (d.parseOne "a;;").outcome ≠ .ok a ∧
      ∃ e, (d.parseOne "a +; b").outcome = .error (.parse e) ∧
        (d.parse "a +; b").outcome = .error (.parse e) := by
  intro d a
  let word : Token := ⟨.word, "a", ⟨0, 1, 1, 1⟩⟩
  let semicolon : Token := ⟨.semicolon, ";", ⟨1, 2, 1, 2⟩⟩
  let tokens : List Token :=
    [word, ⟨.plus, "+", ⟨2, 3, 1, 3⟩⟩, ⟨.semicolon, ";", ⟨3, 4, 1, 4⟩⟩,
      ⟨.word, "b", ⟨5, 6, 1, 6⟩⟩, .endOfFile ⟨6, 6, 1, 7⟩]
  have hone : (d.lex "a;").outcome = .ok [word, semicolon, .endOfFile ⟨2, 2, 1, 3⟩] := by
    decide +kernel
  have htwo : (d.lex "a;;").outcome =
      .ok [word, semicolon, ⟨.semicolon, ";", ⟨2, 3, 1, 3⟩⟩, .endOfFile ⟨3, 3, 1, 4⟩] := by
    decide +kernel
  have hwrong : (d.lex "a +; b").outcome = .ok tokens := by decide +kernel
  have hparse : (d.parse "a;").outcome = .ok [a] := by decide +kernel
  have hparse' : (d.parse "a;;").outcome = .ok [a] := by decide +kernel
  refine ⟨(((parseOne_agrees .ansi none "a;").1 _ hone).1 a).2 ⟨hparse, by decide, by decide⟩,
    hparse', fun h => ?_, ?_⟩
  · obtain ⟨-, -, hlength⟩ := (((parseOne_agrees .ansi none "a;;").1 _ htwo).1 a).1 h
    exact absurd hlength (by decide)
  · obtain ⟨-, hfails⟩ := (parseOne_agrees .ansi none "a +; b").1 tokens hwrong
    have hrejects : (Parsed.outcome (statement d (.ofTokens tokens))).isOk = false := by
      decide +kernel
    cases hrun : statement d (.ofTokens tokens) with
    | error failure c =>
      obtain ⟨e, -, he⟩ := hfails word rfl (by decide) (by decide) failure c hrun
      exact ⟨e, he⟩
    | ok e c =>
      rw [hrun] at hrejects
      cases hrejects

end SqlDialects
