import SqlDialects.Proofs.Dialect.Consistent
import SqlDialects.Proofs.Lexing.Delimited
import SqlDialects.Proofs.Statements.Outcome

/-!
# Calls reach what is registered for them

What a dialect registers for a call fires only if a call of that name gets that far.  The
name has to lex as a word, though reserved words do not and the lexer has its own idea of
words; the bracket behind it has to make a call of it; and the name is looked up in
uppercase, so a key in any other form would never be found.  None of this is checked when
a call is parsed.  A key that fails one of these conditions does not lead to an error but
to a registration that never fires.

`registered_call_is_reached` says that there are no such keys in a dialect that is ready to
read, however its calls and words were registered, and what a call comes to under a name
that is no key.  The words may even have been edited where the lexer does not see it; what
counts are those that the lexer knows, and they are as old as the last check.
-/

namespace SqlDialects

/-- Whether a change registers calls or words, or takes them back, or expands. -/
def Change.registers : Change → Bool
  | .addWords _ _ | .removeWords _ _ | .addCallSyntaxes _ | .replaceCallSyntax _ _
  | .removeCallSyntax _ | .addCallBuilders _ | .expand => true
  | _ => false

namespace Dialect

/-- The dialects that come of a built-in one, or of standard SQL before it is expanded, by
registering calls and words. -/
inductive Registered : DialectName → Dialect → Prop where
  | standard : Registered .ansi Ansi.draft
  | builtin (n : DialectName) (config? : Option Setting) : Registered n (builtin n config?)
  | change {n : DialectName} {d : Dialect} {c : Change} (h : Registered n d)
    (hc : c.registers = true) (hdone : (d.change c).fault? = none) :
    Registered n (d.change c).dialect
  /-- Words put in the place of others, which a lexer that is there already does not see. -/
  | edit {n : DialectName} {d : Dialect} (h : Registered n d) (label : String)
    (words : List String) : Registered n { d with wordSets := d.wordSets.insert label words }

/-- The lexer has the rules of a built-in dialect, and the key of every call lexes as a word. -/
structure Answers (n : DialectName) (d : Dialect) : Prop where
  rules : d.rules? = some n.rules
  lexer : ∀ l, d.lexer? = some l → l.rules = n.rules ∧
    ∀ key, d.callSyntaxes.binds key = true ∨ d.callBuilders.binds key = true →
      Text.isPlainName key = true ∧ l.isReserved key = false

section Registering

variable {n : DialectName} {d d' : Dialect}

/-! ## What registering keeps -/

theorem answers_of_lexer?_eq_none (hrules : d.rules? = some n.rules) (h : d.lexer? = none) :
    d.Answers n where
  rules := hrules
  lexer l hl := by
    rw [h] at hl
    cases hl

/-- Expanding checks the keys against the words that the lexer will know. -/
theorem answers_expand (hrules : d.rules? = some n.rules) (h : d.expand.fault? = none) :
    d.expand.dialect.Answers n := by
  obtain ⟨-, hkeys, rules, hrules', hexpand⟩ := expand_inv h
  obtain rfl : n.rules = rules := Option.some.inj (hrules.symm.trans hrules')
  rw [hexpand]
  refine ⟨hrules, ?_⟩
  rintro _ ⟨⟩
  refine ⟨rfl, fun key hkey => ?_⟩
  have hfree := isFreeKey_of_keysFault? hkeys hkey
  exact ⟨hfree.isPlainName, hfree.notReserved⟩

theorem answers_refresh (hrules : d.rules? = some n.rules) (h : d.refresh.fault? = none) :
    d.refresh.dialect.Answers n := by
  unfold refresh at h ⊢
  split at h
  · rename_i hexpanded
    rw [if_pos hexpanded]
    exact answers_expand hrules h
  · rename_i hexpanded
    rw [if_neg hexpanded]
    exact answers_of_lexer?_eq_none hrules (Option.not_isSome_iff_eq_none.1 hexpanded)

/-- With the lexer as it was, fewer keys are as good. -/
theorem Answers.of_unchanged (h : d.Answers n) (hrules : d'.rules? = d.rules?)
    (hlexer : d'.lexer? = d.lexer?)
    (hkeys : ∀ key, d'.callSyntaxes.binds key = true ∨ d'.callBuilders.binds key = true →
      d.callSyntaxes.binds key = true ∨ d.callBuilders.binds key = true) : d'.Answers n where
  rules := hrules.trans h.rules
  lexer l hl :=
    have hkept := h.lexer l (hlexer ▸ hl)
    ⟨hkept.1, fun key hkey => hkept.2 key (hkeys key hkey)⟩

theorem rules?_withoutWords (label : String) (words : List String) :
    (d.withoutWords label words).rules? = d.rules? := by
  unfold withoutWords
  split <;> rfl

/-- One registration keeps what there is. -/
theorem answers_change (hd : d.Answers n) {c : Change} (hc : c.registers = true)
    (h : (d.change c).fault? = none) : (d.change c).dialect.Answers n := by
  cases c with
  | addWords | addCallSyntaxes | addCallBuilders => exact answers_refresh hd.rules h
  | removeWords label words =>
    exact answers_refresh ((rules?_withoutWords label words).trans hd.rules) h
  | replaceCallSyntax key callSyntax =>
    simp only [change] at h ⊢
    split at h
    · rename_i hbound
      rw [if_pos hbound]
      exact hd.of_unchanged rfl rfl fun _ => Or.imp_left (Table.binds_of_binds_insert hbound)
    · cases h
  | removeCallSyntax key =>
    exact hd.of_unchanged rfl rfl fun _ => Or.imp_left Table.binds_of_binds_erase
  | expand => exact answers_expand hd.rules h
  | _ => cases hc

/-- **The keys of calls lex as words**, whatever has been registered. -/
theorem Registered.answers (h : Registered n d) : d.Answers n := by
  induction h with
  | standard => exact answers_of_lexer?_eq_none rfl rfl
  | builtin n config? =>
    obtain ⟨quoteAll, callCase, h⟩ := n.makes_builtin config?
    rw [h]
    refine ⟨by cases n <;> rfl, ?_⟩
    rintro _ ⟨⟩
    refine ⟨rfl, fun key hkey => ?_⟩
    have hfree := isFreeKey_of_keysFault? n.keysFault?_draft hkey
    exact ⟨hfree.isPlainName, hfree.notReserved⟩
  | change _ hc hdone ih => exact answers_change ih hc hdone
  | edit _ label words ih => exact ih.of_unchanged rfl rfl fun _ => id

end Registering

end Dialect

/-! ## A call as it is read -/

/-- A name with a bracket behind it begins with these two tokens. -/
theorem Lexer.exists_tokens_of_call {l : Lexer} {n : DialectName} (hl : l.rules = n.rules)
    {w rest : String} (hword : Text.isWord w.toList = true) (hfree : l.isReserved w = false)
    {tokens : List Token} (h : l.lex (w ++ "(" ++ rest) = .ok tokens) :
    ∃ name bracket next more, tokens = name :: bracket :: next :: more ∧
      name.lexeme = ⟨.word, w⟩ ∧ bracket.lexeme = ⟨.startBracket, "("⟩ := by
  have htext : (w ++ "(" ++ rest).toList = w.toList ++ ('(' :: rest.toList) := by
    rw [String.toList_append, String.toList_append, List.append_assoc]
    rfl
  have hends : DialectName.EndsWord ('(' :: rest.toList).head? := by
    rintro _ ⟨⟩
    decide
  have hname := n.takes_word_of_rules hl hword
  rw [hfree, if_neg Bool.false_ne_true] at hname
  have hopen : l.CutsOff ['('] rest.toList .startBracket :=
    (n.takes_startBracket_of_rules hl).cutsOff rfl trivial
  have hfirst := (hname.cutsOff rfl hends).token .first
  have hsecond := hopen.token (Place.first.after w.toList)
  obtain ⟨-, -, finish, rfl⟩ := of_lex_eq_ok h
  rw [List.cons_append, List.nil_append] at hsecond
  rw [htext, hfirst, hsecond, String.ofList_toList]
  obtain ⟨next, more, hmore⟩ := List.exists_cons_of_ne_nil
    (List.append_ne_nil_of_right_ne_nil _ (List.cons_ne_nil (Token.endOfFile finish) []))
  exact ⟨_, _, next, more, congrArg (_ :: _ :: ·) hmore, rfl, rfl⟩

namespace Grammar

variable {d : Dialect} {name bracket next : Token} {more : List Token} {notes : List Note}

/-- Behind its name and bracket, a call is what the syntax says that is registered for it, or a
plain call. -/
theorem functionCall_run (hname : name.kind = .word) (hbracket : bracket.kind = .startBracket) :
    functionCall d ⟨name, bracket :: next :: more, notes⟩ =
      match d.callSyntaxes.find? name.key with
      | some callSyntax =>
        callRest d (operand d) name callSyntax
          ⟨next, more, notes ++ [.ownParsing d.name name.text]⟩
      | none => plainCall d (operand d) name ⟨next, more, notes⟩ := by
  have hexpect : Parser.expect .word "function name" ⟨name, bracket :: next :: more, notes⟩ =
      .ok name ⟨bracket, next :: more, notes⟩ := by
    rw [Parser.expect_run, Cursor.advance]
    simp [hname]
  have hopen : discard (Parser.expect .startBracket "'('") ⟨bracket, next :: more, notes⟩ =
      .ok () ⟨next, more, notes⟩ := by
    refine Parser.discard_eq_ok.2 ⟨bracket, ?_⟩
    rw [Parser.expect_run, Cursor.advance]
    simp [hbracket]
  unfold functionCall call
  rw [Parser.bind_of_ok hexpect, Parser.bind_of_ok hopen]
  cases d.callSyntaxes.find? name.key <;> rfl

/-- A word before a bracket is an operand as a call. -/
theorem primary_eq_functionCall (hname : name.kind = .word)
    (hbracket : bracket.kind = .startBracket) :
    primary d (operand d) ⟨name, bracket :: more, notes⟩ =
      functionCall d ⟨name, bracket :: more, notes⟩ := by
  unfold primary
  rw [Parser.bind_of_ok (Parser.peek_run _)]
  simp only [hname]
  rw [Parser.bind_of_ok (Parser.peekAhead_run 1 _)]
  have hpeek : (⟨name, bracket :: more, notes⟩ : Cursor).peek 1 = bracket := rfl
  rw [hpeek, hbracket]
  rfl

end Grammar

open Dialect (Registered)
open Grammar (operand expression primary functionCall callRest)

/-- **What is registered for a call is reached** in any case of its name, and a call under any other
word is a plain one.  A name that is registered, in whatever case, or any word that is not reserved,
lexes as a word before a bracket, and makes an operand of what follows.  The call then is what the
syntax registered for it makes of the tokens behind the bracket; or else what the builder makes of
plain arguments; or else a plain call. -/
theorem registered_call_is_reached {n : DialectName} {d : Dialect} (hd : Registered n d)
    {l : Lexer} (hl : d.lexer? = some l) {w rest : String}
    (hw : d.callSyntaxes.binds w.toUpper = true ∨ d.callBuilders.binds w.toUpper = true ∨
      Text.isWord w.toList = true ∧ l.isReserved w = false)
    {tokens : List Token} (hlex : l.lex (w ++ "(" ++ rest) = .ok tokens) :
    ∃ name bracket next more, tokens = name :: bracket :: next :: more ∧
      name.lexeme = ⟨.word, w⟩ ∧ bracket.lexeme = ⟨.startBracket, "("⟩ ∧
      primary d (operand d) (.ofTokens tokens) = functionCall d (.ofTokens tokens) ∧
      (∀ callSyntax, d.callSyntaxes.find? w.toUpper = some callSyntax →
        functionCall d (.ofTokens tokens) =
          callRest d (operand d) name callSyntax ⟨next, more, [.ownParsing d.name w]⟩) ∧
      (d.callSyntaxes.find? w.toUpper = none → ∀ builder,
        d.callBuilders.find? w.toUpper = some builder →
        functionCall d (.ofTokens tokens) =
          (do Parser.built name (builder.build (← Parser.csvToEndBracket (expression d))) :
            Parser Expr) ⟨next, more, []⟩) ∧
      (d.callSyntaxes.find? w.toUpper = none → d.callBuilders.find? w.toUpper = none →
        functionCall d (.ofTokens tokens) =
          (do return .call w (← Parser.csvToEndBracket (expression d)) : Parser Expr)
            ⟨next, more, []⟩) := by
  obtain ⟨hrules, hkeys⟩ := hd.answers.lexer l hl
  have hfree : Text.isWord w.toList = true ∧ l.isReserved w = false := by
    rw [← or_assoc] at hw
    refine hw.elim (fun hbound => ?_) id
    obtain ⟨hplain, hreserved⟩ := hkeys _ hbound
    rw [← Text.isWord_toUpper]
    refine ⟨Text.isWord_of_isPlainName hplain, ?_⟩
    rw [Lexer.isReserved, Text.toUpper_idem] at hreserved
    exact hreserved
  obtain ⟨name, bracket, next, more, rfl, hname, hbracket⟩ :=
    Lexer.exists_tokens_of_call hrules hfree.1 hfree.2 hlex
  have hstart : Cursor.ofTokens (name :: bracket :: next :: more) =
      ⟨name, bracket :: next :: more, []⟩ := by
    have hcomplete := (Cursor.tokens_ofTokens_eq _).symm.trans (Lexer.tokens_ofTokens hlex)
    rw [Cursor.ofTokens, hcomplete]
  have hnameKind : name.kind = .word := congrArg Lexeme.kind hname
  have hbracketKind : bracket.kind = .startBracket := congrArg Lexeme.kind hbracket
  obtain rfl : name.text = w := congrArg Lexeme.text hname
  rw [hstart]
  refine ⟨name, bracket, next, more, rfl, hname, hbracket,
    Grammar.primary_eq_functionCall hnameKind hbracketKind, fun callSyntax hsyntax => ?_,
    fun hsyntax builder hbuilder => ?_, fun hsyntax hbuilder => ?_⟩
  all_goals rw [Grammar.functionCall_run hnameKind hbracketKind, Token.key, hsyntax]
  · rfl
  · unfold Grammar.plainCall
    rw [Token.key, hbuilder]
    rfl
  · unfold Grammar.plainCall
    rw [Token.key, hbuilder]
    rfl

/-- A builder that is registered under the name of a syntax is reached once the syntax is gone. -/
theorem registered_call_is_reached_behind_syntax :
    let d := ((Dialect.builtin .clickhouse none).change
      (.addCallBuilders [("TUPLE", .varMap)])).dialect
    let d' := (d.change (.removeCallSyntax "TUPLE")).dialect
    Registered .clickhouse d ∧ Registered .clickhouse d' ∧
      ∃ l name bracket next more, d.lexer? = some l ∧ d'.lexer? = some l ∧
        l.lex "tUpLe(1, 2)" = .ok (name :: bracket :: next :: more) ∧
        functionCall d (.ofTokens (name :: bracket :: next :: more)) =
          callRest d (operand d) name .struct ⟨next, more, [.ownParsing d.name "tUpLe"]⟩ ∧
        functionCall d' (.ofTokens (name :: bracket :: next :: more)) =
          (do Parser.built name (CallBuilder.varMap.build
            (← Parser.csvToEndBracket (expression d'))) : Parser Expr) ⟨next, more, []⟩ := by
  intro d d'
  have hd : Registered .clickhouse d :=
    .change (.builtin .clickhouse none) rfl (by decide +kernel)
  have hd' : Registered .clickhouse d' := .change hd rfl rfl
  have hl : d.lexer? = some DialectName.clickhouse.lexer := by decide +kernel
  have hl' : d'.lexer? = some DialectName.clickhouse.lexer := hl
  cases hlex : DialectName.clickhouse.lexer.lex ("tUpLe" ++ "(" ++ "1, 2)") with
  | error e =>
    have hok : (DialectName.clickhouse.lexer.lex ("tUpLe" ++ "(" ++ "1, 2)")).isOk = true := by
      decide +kernel
    rw [hlex] at hok
    cases hok
  | ok tokens =>
    have hbound : d.callBuilders.binds "tUpLe".toUpper = true := by decide +kernel
    obtain ⟨name, bracket, next, more, rfl, -, -, -, hsyntax, -, -⟩ :=
      registered_call_is_reached hd hl (.inr (.inl hbound)) hlex
    obtain ⟨_, _, _, _, ⟨⟩, -, -, -, -, hbuilder, -⟩ :=
      registered_call_is_reached hd' hl' (.inr (.inl hbound)) hlex
    exact ⟨hd, hd', _, name, bracket, next, more, hl, hl', hlex,
      hsyntax .struct (by decide +kernel),
      hbuilder (by decide +kernel) .varMap (by decide +kernel)⟩

end SqlDialects
