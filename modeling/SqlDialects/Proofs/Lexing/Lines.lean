import SqlDialects.Proofs.Lexing.Taken

/-!
# Texts that end with a line

Most of what a lexical rule does depends on what comes next: a word goes on as long
as there are letters, a numeral looks for what may not follow it, a comment runs to
the end of its line.  But a line feed ends all of that just as the end of the text
does.  So what a text is cut into, if it can be cut to its end, is also what it is
cut into when more lines follow, and those lines are cut as if they stood alone
(`elements_before_line`).

## What the argument needs

It is enough to look at one rule at a time (`Pattern.StopsAtLine`): before a line
feed it reacts as it does at the end, so that neither it nor a rule that comes after
it gets or loses a match.  There are two exceptions, and both are harmless.  A quoted
literal or a comment that is not closed may be closed by the lines that follow; but
then the text could not be cut to its end.  And a carriage return that ends the text
becomes part of a line end before a line feed; but alone it is no token at all.
-/

namespace SqlDialects

/-! ## Regular expressions -/

namespace Regex

/-- Whether an expression can see whether `c` or the end comes next: it neither matches `c`
anywhere nor looks at the characters around it. -/
def avoids (c : Char) : Regex → Bool
  | .empty => true
  | .single k => !k.contains c
  | .many k => !k.contains c
  | .seq first second => first.avoids c && second.avoids c
  | .either first second => first.avoids c && second.avoids c
  | .optional inner => inner.avoids c
  | .anchor _ => false

variable {ρ σ : Type} {f : ρ → σ} {c : Char} {u : List Char}
  {next : List Char → List Char → Option ρ} {next' : List Char → List Char → Option σ}

theorem runMany_before {k : CharClass} (hk : k.contains c = false)
    (hnext : ∀ before s, next' before (s ++ c :: u) = (next before s).map f)
    (before s : List Char) :
    runMany k next' before (s ++ c :: u) = (runMany k next before s).map f := by
  induction s generalizing before with
  | nil =>
    show (if k.contains c then _ else _) = _
    rw [hk]
    exact hnext before []
  | cons d s ih =>
    have hstop := hnext before (d :: s)
    rw [List.cons_append] at hstop ⊢
    rw [runMany, runMany]
    by_cases hd : k.contains d = true
    · rw [if_pos hd, if_pos hd, ih]
      cases runMany k next (d :: before) s with
      | some found => rfl
      | none => exact hstop
    · rw [if_neg hd, if_neg hd]
      exact hstop

/-- Before a character that it cannot see an expression matches as at the end. -/
theorem run_before {r : Regex} (hr : r.avoids c = true)
    (hnext : ∀ before s, next' before (s ++ c :: u) = (next before s).map f)
    (before s : List Char) :
    r.run next' before (s ++ c :: u) = (r.run next before s).map f := by
  induction r generalizing ρ σ next next' before s with
  | empty => exact hnext before s
  | single k =>
    rw [avoids, Bool.not_eq_true'] at hr
    cases s with
    | nil =>
      show (if k.contains c then _ else _) = _
      rw [hr]
      rfl
    | cons d s =>
      show (if k.contains d then _ else _) = (if k.contains d then _ else _ : Option ρ).map f
      by_cases hd : k.contains d = true
      · rw [if_pos hd, if_pos hd]
        exact hnext (d :: before) s
      · rw [if_neg hd, if_neg hd]
        rfl
  | many k =>
    rw [avoids, Bool.not_eq_true'] at hr
    exact runMany_before hr hnext before s
  | seq first second ih₁ ih₂ =>
    rw [avoids, Bool.and_eq_true] at hr
    exact ih₁ hr.1 (fun before s => ih₂ hr.2 hnext before s) before s
  | either first second ih₁ ih₂ =>
    rw [avoids, Bool.and_eq_true] at hr
    rw [run, run, ih₁ hr.1 hnext]
    cases first.run next before s with
    | some found => rfl
    | none => exact ih₂ hr.2 hnext before s
  | optional inner ih =>
    rw [run, run, ih hr hnext]
    cases inner.run next before s with
    | some found => rfl
    | none => exact hnext before s
  | anchor a => cases hr

end Regex

/-! ## What one rule makes of a text that a line feed follows -/

namespace Lexical

/-- A first part of a text and the rest, with more text behind it. -/
def Split.before (u : List Char) (x : Split) : Split := (x.1, x.2 ++ u)

/-- A reaction to a text, with more text behind it. -/
def Reaction.before (u : List Char) : Reaction → Reaction
  | .matched text rest => .matched text (rest ++ u)
  | .unterminated => .unterminated

variable {s u : List Char}

theorem Reaction.ofSplit?_before (x : Option Split) :
    ofSplit? (x.map (Split.before u)) = (ofSplit? x).map (Reaction.before u) := by
  cases x with
  | none => rfl
  | some x =>
    show (if x.1.isEmpty then none else some (Reaction.matched x.1 (x.2 ++ u))) =
      (if x.1.isEmpty then none else some (Reaction.matched x.1 x.2)).map (Reaction.before u)
    split <;> rfl

/-- Before a line feed a pattern reacts to a text as at the end, but that it may find there the end
of something that is not closed in the text.  Nothing is said of the end of a text, nor of a
carriage return alone. -/
def Pattern.StopsAtLine (p : Pattern) : Prop :=
  ∀ s u, s ≠ [] → s ≠ ['\r'] → p.react s ≠ some .unterminated →
    p.react (s ++ '\n' :: u) = (p.react s).map (Reaction.before ('\n' :: u))

theorem stopsAtLine_regex {r : Regex} (hr : r.avoids '\n' = true) :
    (Pattern.regex r).StopsAtLine := by
  intro s u _ _ _
  have hsplit : r.split? (s ++ '\n' :: u) = (r.split? s).map (Split.before ('\n' :: u)) :=
    Regex.run_before hr (fun _ _ => rfl) [] s
  show Reaction.ofSplit? (r.split? (s ++ '\n' :: u)) = _
  rw [hsplit, Reaction.ofSplit?_before]
  rfl

/-! ### Fixed texts -/

theorem isPrefixOf_before {template : List Char} (h : '\n' ∉ template) :
    template.isPrefixOf (s ++ '\n' :: u) = template.isPrefixOf s := by
  induction template generalizing s with
  | nil => rfl
  | cons c template ih =>
    rw [List.mem_cons, not_or] at h
    cases s with
    | nil =>
      show ((c == '\n') && _) = false
      rw [beq_eq_false_iff_ne.2 (Ne.symm h.1)]
      rfl
    | cons d s =>
      have htail := ih (s := s) h.2
      show ((c == d) && template.isPrefixOf (s ++ '\n' :: u)) = _
      rw [htail]
      rfl

theorem stopsAtLine_text {template : String} (h : '\n' ∉ template.toList) :
    (Pattern.text template).StopsAtLine := by
  intro s u _ _ _
  have hsplit : splitText? template.toList (s ++ '\n' :: u) =
      (splitText? template.toList s).map (Split.before ('\n' :: u)) := by
    unfold splitText?
    rw [isPrefixOf_before h]
    split
    · rename_i hprefix
      have hle := (List.isPrefixOf_iff_prefix.1 hprefix).length_le
      rw [List.drop_append_of_le_length hle]
      rfl
    · rfl
  show Reaction.ofSplit? (splitText? template.toList (s ++ '\n' :: u)) = _
  rw [hsplit, Reaction.ofSplit?_before]
  rfl

/-! ### Numerals -/

theorem splitDigits_before (s : List Char) :
    splitDigits (s ++ '\n' :: u) = (splitDigits s).before ('\n' :: u) := by
  induction s with
  | nil => rfl
  | cons c s ih =>
    unfold splitDigits at ih ⊢
    rw [List.cons_append, List.takeWhile_cons, List.dropWhile_cons, List.takeWhile_cons,
      List.dropWhile_cons]
    by_cases hc : c.isDigit = true
    · simp only [hc, if_true]
      exact congrArg (fun x : Split => (c :: x.1, x.2)) ih
    · simp only [hc]
      rfl

theorem splitSomeDigits?_before (s : List Char) :
    splitSomeDigits? (s ++ '\n' :: u) = (splitSomeDigits? s).map (Split.before ('\n' :: u)) := by
  unfold splitSomeDigits?
  rw [splitDigits_before]
  show (if (splitDigits s).1.isEmpty then _ else _) = _
  split <;> rfl

theorem splitExponent?_before (s : List Char) :
    splitExponent? (s ++ '\n' :: u) = (splitExponent? s).map (Split.before ('\n' :: u)) := by
  cases s with
  | nil => rfl
  | cons e s =>
    rw [List.cons_append, splitExponent?_cons, splitExponent?_cons]
    by_cases he : e = 'e' ∨ e = 'E'
    · rw [if_pos he, if_pos he]
      cases s with
      | nil => rfl
      | cons sign s =>
        have hs := splitSomeDigits?_before (u := u) s
        have hsign := splitSomeDigits?_before (u := u) (sign :: s)
        rw [List.cons_append] at hsign ⊢
        by_cases hsigned : sign = '+' ∨ sign = '-'
        · simp only [if_pos hsigned, hs, Option.map_map]
          rfl
        · simp only [if_neg hsigned, hsign, Option.map_map]
          rfl
    · rw [if_neg he, if_neg he]
      rfl

theorem splitFraction_before (s : List Char) :
    splitFraction (s ++ '\n' :: u) = (splitFraction s).before ('\n' :: u) := by
  cases s with
  | nil => rfl
  | cons c s =>
    by_cases hc : c = '.'
    · subst hc
      rw [List.cons_append, splitFraction_point, splitFraction_point, splitDigits_before]
      rfl
    · have hne : ∀ t : List Char, (c :: t).head? ≠ some '.' := fun t h => hc (Option.some.inj h)
      rw [List.cons_append, splitFraction_of_ne (hne _), splitFraction_of_ne (hne s)]
      rfl

theorem splitMantissa?_before (s : List Char) :
    splitMantissa? (s ++ '\n' :: u) = (splitMantissa? s).map (Split.before ('\n' :: u)) := by
  cases s with
  | nil => rfl
  | cons c s =>
    have hwhole := splitDigits_before (u := u) (c :: s)
    rw [List.cons_append] at hwhole ⊢
    rw [splitMantissa?, splitMantissa?]
    by_cases hpoint : c = '.'
    · rw [if_pos hpoint, if_pos hpoint, splitSomeDigits?_before, Option.map_map, Option.map_map]
      rfl
    · rw [if_neg hpoint, if_neg hpoint]
      by_cases hdigit : c.isDigit = true
      · have hfraction := splitFraction_before (u := u) (splitDigits (c :: s)).2
        simp only [if_pos hdigit, hwhole, Split.before, hfraction, Option.map_some]
      · rw [if_neg hdigit, if_neg hdigit]
        rfl

theorem splitNumeral?_before (s : List Char) :
    splitNumeral? (s ++ '\n' :: u) = (splitNumeral? s).map (Split.before ('\n' :: u)) := by
  unfold splitNumeral?
  rw [splitMantissa?_before]
  cases splitMantissa? s with
  | none => rfl
  | some mantissa =>
    simp only [Option.map_some, Split.before, splitExponent?_before]
    cases splitExponent? mantissa.2 with
    | none => rfl
    | some exponent =>
      have hhead : (exponent.2 ++ '\n' :: u).head?.any continuesNumeral =
          exponent.2.head?.any continuesNumeral := by
        cases exponent.2 <;> rfl
      simp only [Option.map_some, Split.before, hhead]
      split <;> rfl

theorem stopsAtLine_numeral : Pattern.numeral.StopsAtLine := by
  intro s u _ _ _
  show Reaction.ofSplit? (splitNumeral? (s ++ '\n' :: u)) = _
  rw [splitNumeral?_before, Reaction.ofSplit?_before]
  rfl

/-! ### Comments and quoted literals

What is closed in a text is closed there whatever follows. -/

theorem splitOpenComment?_before {depth : Nat} {s t rest : List Char} (u : List Char)
    (h : splitOpenComment? depth s = some (t, rest)) :
    splitOpenComment? depth (s ++ u) = some (t, rest ++ u) := by
  fun_induction splitOpenComment? depth s generalizing t rest with
  | case1 => cases h
  | case2 => cases h
  | case3 depth s ih =>
    obtain ⟨x, hx, heq⟩ := Option.map_eq_some_iff.1 h
    cases heq
    simp [splitOpenComment?, ih hx]
  | case4 s =>
    cases h
    rfl
  | case5 depth s ih =>
    obtain ⟨x, hx, heq⟩ := Option.map_eq_some_iff.1 h
    cases heq
    simp [splitOpenComment?, ih hx]
  | case6 depth c s hnul hopen hclose ih =>
    obtain ⟨x, hx, heq⟩ := Option.map_eq_some_iff.1 h
    cases heq
    cases s with
    | nil => cases hx
    | cons d s =>
      rw [List.cons_append, List.cons_append, splitOpenComment?, ← List.cons_append, ih hx]
      · rfl
      · exact hnul
      · intro s' hc hs'
        cases hs'
        exact hopen s hc rfl
      · intro s' hc hs'
        cases hs'
        exact hclose s hc rfl

theorem stopsAtLine_comment : Pattern.comment.StopsAtLine := by
  intro s u hne _ hclosed
  change reactComment s ≠ some .unterminated at hclosed
  show reactComment (s ++ '\n' :: u) = (reactComment s).map (Reaction.before ('\n' :: u))
  match s with
  | [] => exact absurd rfl hne
  | [c] =>
    unfold reactComment
    simp
  | c :: d :: s =>
    by_cases hmark : c = '/' ∧ d = '*'
    · obtain ⟨rfl, rfl⟩ := hmark
      rw [reactComment] at hclosed
      cases hsplit : splitOpenComment? 0 s with
      | none =>
        rw [hsplit] at hclosed
        exact absurd rfl hclosed
      | some x =>
        have hbefore := splitOpenComment?_before ('\n' :: u) hsplit
        simp only [List.cons_append, reactComment, hsplit, hbefore]
        rfl
    · have hnone : ∀ t, reactComment (c :: d :: t) = none := by
        intro t
        unfold reactComment
        split
        · rename_i heq
          cases heq
          exact absurd ⟨rfl, rfl⟩ hmark
        · rfl
      rw [List.cons_append, List.cons_append, hnone, hnone]
      rfl

theorem splitQuotedBody?_before {closing : Char} {escape : Option Char} {s t rest : List Char}
    (hclosing : closing ≠ '\n') (h : splitQuotedBody? closing escape s = some (t, rest)) :
    splitQuotedBody? closing escape (s ++ '\n' :: u) = some (t, rest ++ '\n' :: u) := by
  fun_induction splitQuotedBody? closing escape s generalizing t rest with
  | case1 => cases h
  | case2 c hc =>
    cases h
    obtain ⟨hescape, rfl⟩ := hc
    exact splitQuotedBody?_closing (fun h => hescape h) (by simpa using hclosing.symm)
  | case3 => cases h
  | case4 c d s hescape ih =>
    obtain ⟨x, hx, heq⟩ := Option.map_eq_some_iff.1 h
    cases heq
    rw [List.cons_append, List.cons_append, splitQuotedBody?, if_pos hescape, ih hx]
    rfl
  | case5 s hescape ih =>
    obtain ⟨x, hx, heq⟩ := Option.map_eq_some_iff.1 h
    cases heq
    rw [List.cons_append, List.cons_append, splitQuotedBody?, if_neg hescape, if_pos rfl,
      if_pos rfl, ih hx]
    rfl
  | case6 d s hescape hd =>
    cases h
    rw [List.cons_append, List.cons_append, splitQuotedBody?, if_neg hescape, if_pos rfl,
      if_neg hd]
  | case7 c d s hescape hc ih =>
    obtain ⟨x, hx, heq⟩ := Option.map_eq_some_iff.1 h
    cases heq
    have hbefore := ih hx
    rw [List.cons_append] at hbefore
    rw [List.cons_append, List.cons_append, splitQuotedBody?, if_neg hescape, if_neg hc, hbefore]
    rfl

theorem stopsAtLine_quoted {opening closing : Char} {escape : Option Char}
    (hclosing : closing ≠ '\n') : (Pattern.quoted opening closing escape).StopsAtLine := by
  intro s u hne _ hclosed
  change reactQuoted opening closing escape s ≠ some .unterminated at hclosed
  show reactQuoted opening closing escape (s ++ '\n' :: u) =
    (reactQuoted opening closing escape s).map (Reaction.before ('\n' :: u))
  obtain ⟨c, s, rfl⟩ := List.exists_cons_of_ne_nil hne
  rw [reactQuoted] at hclosed
  rw [List.cons_append, reactQuoted, reactQuoted]
  by_cases hc : c = opening
  · rw [if_pos hc] at hclosed ⊢
    rw [if_pos hc]
    cases hsplit : splitQuotedBody? closing escape s with
    | none =>
      rw [hsplit] at hclosed
      exact absurd rfl hclosed
    | some x =>
      have hbefore := splitQuotedBody?_before (u := u) hclosing hsplit
      rw [hbefore]
      rfl
  · rw [if_neg hc, if_neg hc]
    rfl

/-! ### Line ends -/

/-- The expression for line ends. -/
def lineEnd : Regex := .either (.ofText ['\r', '\n']) (.ofText ['\n'])

theorem stopsAtLine_lineEnd : (Pattern.regex lineEnd).StopsAtLine := by
  intro s u hne hreturn _
  have hsplit : lineEnd.split? (s ++ '\n' :: u) =
      (lineEnd.split? s).map (Split.before ('\n' :: u)) := by
    match s with
    | [] => exact absurd rfl hne
    | [c] =>
      have hc : c ≠ '\r' := fun h => hreturn (congrArg (fun c => [c]) h)
      by_cases hfeed : c = '\n' <;>
        simp [lineEnd, Regex.split?, Regex.run, Regex.ofText, Split.before, hc, hfeed]
    | c :: d :: s =>
      by_cases hreturn : c = '\r' <;> by_cases hfeed : c = '\n' <;> by_cases hd : d = '\n' <;>
        simp [lineEnd, Regex.split?, Regex.run, Regex.ofText, Split.before, hreturn, hfeed, hd]
  show Reaction.ofSplit? (lineEnd.split? (s ++ '\n' :: u)) = _
  rw [hsplit, Reaction.ofSplit?_before]
  rfl

/-- A pattern that is seen to stop at a line: it cannot see a line feed at all, or the line feed
ends it. -/
def Pattern.seenToStop : Pattern → Bool
  | .text template => !template.toList.contains '\n'
  | .regex r => r.avoids '\n' || r == lineEnd
  | .numeral => true
  | .comment => true
  | .quoted _ closing _ => closing != '\n'

theorem Pattern.stopsAtLine_of_seenToStop {p : Pattern} (h : p.seenToStop = true) :
    p.StopsAtLine := by
  cases p with
  | text template => exact stopsAtLine_text (by simpa [seenToStop] using h)
  | regex r =>
    rw [seenToStop, Bool.or_eq_true, beq_iff_eq] at h
    rcases h with h | rfl
    · exact stopsAtLine_regex h
    · exact stopsAtLine_lineEnd
  | numeral => exact stopsAtLine_numeral
  | comment => exact stopsAtLine_comment
  | quoted opening closing escape => exact stopsAtLine_quoted (by simpa [seenToStop] using h)

end Lexical

/-! ## Texts in the built-in dialects -/

namespace Lexer

variable {rules : List LexicalRule} {s t rest u : List Char} {rule : LexicalRule}

/-- Where a rule takes something, it takes the same if a line follows the text. -/
theorem firstReaction?_before_line (hrules : ∀ r ∈ rules, r.pattern.StopsAtLine) (hne : s ≠ [])
    (hreturn : s ≠ ['\r']) (h : firstReaction? rules s = some (rule, .matched t rest)) :
    firstReaction? rules (s ++ '\n' :: u) = some (rule, .matched t (rest ++ '\n' :: u)) := by
  induction rules with
  | nil => cases h
  | cons r rules ih =>
    have hstops : r.react s ≠ some .unterminated →
        r.react (s ++ '\n' :: u) = (r.react s).map (Lexical.Reaction.before ('\n' :: u)) :=
      hrules r List.mem_cons_self s u hne hreturn
    unfold firstReaction? at h ⊢
    rw [List.findSome?_cons] at h ⊢
    cases hreact : r.react s with
    | some reaction =>
      rw [hreact] at h hstops
      cases h
      rw [hstops nofun]
      rfl
    | none =>
      rw [hreact] at h hstops
      rw [hstops nofun]
      exact ih (fun r' hr' => hrules r' (List.mem_cons_of_mem r hr')) h

/-- **A text that is cut to its end is cut alike before a line feed**, and what begins there is cut
on its own. -/
theorem elements_before_line (hrules : ∀ r ∈ rules, r.pattern.StopsAtLine)
    (hreturn : firstReaction? rules ['\r'] = none) (hend : (elements rules s).2 = []) :
    elements rules (s ++ '\n' :: u) =
      ((elements rules s).1 ++ (elements rules ('\n' :: u)).1, (elements rules ('\n' :: u)).2) := by
  fun_induction elements rules s with
  | case1 s rule text rest h later left heq ih =>
    have hne : s ≠ [] := by
      rintro rfl
      obtain ⟨-, happend, htext⟩ := of_firstReaction?_eq_matched h
      exact htext (List.append_eq_nil_iff.1 happend).1
    have hreturn' : s ≠ ['\r'] := by
      rintro rfl
      rw [hreturn] at h
      cases h
    rw [elements_of_matched (firstReaction?_before_line hrules hne hreturn' h)]
    rw [heq] at ih
    rw [ih hend]
    rfl
  | case2 s =>
    obtain rfl : s = [] := hend
    rfl

end Lexer

namespace DialectName

variable (n : DialectName)

theorem stopsAtLine_of_mem_rules : ∀ r ∈ n.rules, r.pattern.StopsAtLine := by
  have hseen : ∀ r ∈ n.rules, r.pattern.seenToStop = true := by
    cases n <;> decide
  exact fun r hr => Lexical.Pattern.stopsAtLine_of_seenToStop (hseen r hr)

theorem takes_newline : n.lexer.Takes Anything ['\n'] .newline := by
  intro rest _
  cases n <;> exact ⟨_, rfl, rfl⟩

theorem takes_semicolon : n.lexer.Takes Anything [';'] .semicolon := by
  intro rest _
  cases n <;> exact ⟨_, rfl, rfl⟩

end DialectName

end SqlDialects
