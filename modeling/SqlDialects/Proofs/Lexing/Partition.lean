import Mathlib.Data.List.DropRight
import SqlDialects.Proofs.Lexing.Behind

/-!
# A text is its tokens and what lies between them

The lexer keeps three counts while it goes over a text --- bytes, lines, characters
of a line --- and forgets the trivia as it passes them.  What a reader of the tokens
relies on is that nothing has gone wrong with either: a token lies exactly where its
stretch says, and what no token covers is trivia.  `Partitions` says so of the tokens
of a text, `StopsAt` of the error for a text that has none, and `partitions_of_lex`
that every lexer gets it right, whatever its rules are.

All of this is said in terms of the text alone.  A place is not what the counts come
to but what can be read off the text before it (`Span.BeginsAfter`), and an element
is not what `Lexer.elements` returns but what the first rule to react takes
(`Lexer.Run`).
-/

namespace SqlDialects

theorem Text.byteLength_pos {s : List Char} (h : s ≠ []) : 0 < Text.byteLength s := by
  obtain ⟨c, s, rfl⟩ := List.exists_cons_of_ne_nil h
  exact Nat.lt_of_lt_of_le c.utf8Size_pos (Nat.le_add_right _ _)

/-! ## Places, read off the text before them -/

/-- Characters are counted from the last line feed, or from the beginning of the text. -/
theorem Place.column_first_after (s : List Char) :
    (first.after s).column = 1 + (s.rtakeWhile (· ≠ '\n')).length := by
  induction s using List.reverseRecOn with
  | nil => rfl
  | append_singleton s c ih =>
    rw [after_append, after_cons, after_nil, List.rtakeWhile_concat, next]
    by_cases hc : c = '\n'
    · rw [if_pos hc, if_neg (by simpa using hc)]
      rfl
    · rw [if_neg hc, if_pos (by simpa using hc), List.length_append, ← Nat.add_assoc, ← ih]
      rfl

/-- A stretch begins behind `before`, at the byte, the line and the character of the line that this
comes to. -/
structure Span.BeginsAfter (s : Span) (before : List Char) : Prop where
  start : s.start = Text.byteLength before
  line : s.line = 1 + before.count '\n'
  column : s.column = 1 + (before.rtakeWhile (· ≠ '\n')).length

theorem Span.beginsAfter_spanOf (before text : List Char) :
    ((Place.first.after before).spanOf text).BeginsAfter before where
  start := (Place.first.offset_after before).trans (Nat.zero_add _)
  line := Place.first.line_after before
  column := Place.column_first_after before

/-- The stretch of a part of a text covers that part. -/
theorem Span.textIn?_spanOf {source : String} {before text rest : List Char}
    (h : source.toList = before ++ (text ++ rest)) :
    ((Place.first.after before).spanOf text).textIn? source = some (.ofList text) := by
  rw [textIn?, Place.spanOf, Place.offset_after, h]
  show (Text.slice? (0 + _) (0 + _ + _) _).map _ = _
  rw [Nat.zero_add, Text.slice?_append]
  rfl

namespace Lexer

/-! ## Elements -/

section Run

variable {rules : List LexicalRule} {s text rest left : List Char} {rule : LexicalRule}
  {reaction : Lexical.Reaction} {es later : List Element}

/-- A rule reacts to a text, and none before it does. -/
def ReactsFirst (rules : List LexicalRule) (s : List Char) (rule : LexicalRule)
    (reaction : Lexical.Reaction) : Prop :=
  ∃ before behind, rules = before ++ rule :: behind ∧ (∀ r ∈ before, r.react s = none) ∧
    rule.react s = some reaction

theorem firstReaction?_eq_some_iff :
    firstReaction? rules s = some (rule, reaction) ↔ ReactsFirst rules s rule reaction := by
  rw [firstReaction?, List.findSome?_eq_some_iff]
  constructor
  · rintro ⟨before, r, behind, hrules, hreact, hbefore⟩
    obtain ⟨reaction', hreact', hpair⟩ := Option.map_eq_some_iff.1 hreact
    cases hpair
    exact ⟨before, behind, hrules, fun r hr => Option.map_eq_none_iff.1 (hbefore r hr), hreact'⟩
  · rintro ⟨before, behind, hrules, hbefore, hreact⟩
    refine ⟨before, rule, behind, hrules, ?_, fun r hr => ?_⟩
    · rw [hreact]
      rfl
    · rw [hbefore r hr]
      rfl

theorem firstReaction?_eq_none_iff :
    firstReaction? rules s = none ↔ ∀ r ∈ rules, r.react s = none := by
  rw [firstReaction?, List.findSome?_eq_none_iff]
  exact forall₂_congr fun _ _ => Option.map_eq_none_iff

theorem ReactsFirst.of_matched (h : ReactsFirst rules s rule (.matched text rest)) :
    text ++ rest = s ∧ text ≠ [] :=
  (of_firstReaction?_eq_matched (firstReaction?_eq_some_iff.2 h)).2

/-- A text begins with some elements, each taken by the first rule to react, and a rest is left. -/
inductive Run (rules : List LexicalRule) : List Char → List Element → List Char → Prop where
  | stop (s : List Char) : Run rules s [] s
  | step {s text rest left : List Char} {rule : LexicalRule} {later : List Element}
    (hfirst : ReactsFirst rules s rule (.matched text rest)) (hlater : Run rules rest later left) :
    Run rules s (⟨rule, text⟩ :: later) left

theorem run_elements (rules : List LexicalRule) (s : List Char) :
    Run rules s (elements rules s).1 (elements rules s).2 := by
  fun_induction elements rules s with
  | case1 s rule text rest h later left heq ih =>
    rw [heq] at ih
    exact .step (firstReaction?_eq_some_iff.1 h) ih
  | case2 s => exact .stop s

theorem Run.append (h : Run rules s es rest) (hlater : Run rules rest later left) :
    Run rules s (es ++ later) left := by
  induction h with
  | stop => exact hlater
  | step hfirst _ ih => exact .step hfirst (ih hlater)

theorem Run.flatMap_append (h : Run rules s es left) : es.flatMap (·.text) ++ left = s := by
  induction h with
  | stop => rfl
  | step hfirst _ ih =>
    rw [List.flatMap_cons, List.append_assoc, ih]
    exact hfirst.of_matched.1

end Run

/-! ## Tokens -/

variable {l : Lexer} {source : String} {before s left : List Char} {es : List Element}

/-- From an offset of a text on the rules take some trivia, and a rest is left. -/
def TakesTrivia (l : Lexer) (source : List Char) (start : Nat) (gap : List Element)
    (rest : List Char) : Prop :=
  ∃ before s, source = before ++ s ∧ Text.byteLength before = start ∧ Run l.rules s gap rest ∧
    ∀ e ∈ gap, e.rule.kind.isTrivia = true

/-- Trivia is all that there is between two offsets of a text. -/
def OnlyTrivia (l : Lexer) (source : List Char) (start stop : Nat) : Prop :=
  ∃ gap rest, l.TakesTrivia source start gap rest ∧
    Text.slice? start stop source = some (gap.flatMap (·.text))

/-- Tokens lie in a text where they say, and leave out nothing but trivia. -/
structure Partitions (l : Lexer) (source : String) (tokens : List Token) : Prop where
  /-- Only the token that marks the end is empty. -/
  ends : ∃ front finish, tokens = front ++ [.endOfFile finish] ∧ (∀ t ∈ front, t.text ≠ "") ∧
    finish.start = Text.byteLength source.toList ∧ finish.stop = Text.byteLength source.toList
  texts : ∀ t ∈ tokens, t.span.textIn? source = some t.text
  places : ∀ t ∈ tokens, ∃ before, before <+: source.toList ∧ t.span.BeginsAfter before
  ordered : tokens.Pairwise fun t u => t.span.stop ≤ u.span.start
  gaps : (Place.first.span :: tokens.map (·.span)).IsChain fun t u =>
    l.OnlyTrivia source.toList t.stop u.start

/-- What is there to say of one token. -/
structure Lies (source : String) (t : Token) : Prop where
  text : t.span.textIn? source = some t.text
  place : ∃ before, before <+: source.toList ∧ t.span.BeginsAfter before

theorem lies_spanOf {text rest : List Char} (h : source.toList = before ++ (text ++ rest))
    (kind : TokenKind) :
    Lies source ⟨kind, .ofList text, (Place.first.after before).spanOf text⟩ where
  text := Span.textIn?_spanOf h
  place := ⟨before, ⟨text ++ rest, h.symm⟩, Span.beginsAfter_spanOf before text⟩

/-- Every token of a run lies where it says, and is not empty. -/
theorem lies_of_mem_placeTokens (hrun : Run l.rules s es left)
    (hsource : source.toList = before ++ s) :
    ∀ t ∈ l.placeTokens (Place.first.after before) es, t.text ≠ "" ∧ Lies source t := by
  induction hrun generalizing before with
  | stop => exact fun t ht => nomatch ht
  | @step s text rest left rule later hfirst _ ih =>
    obtain ⟨rfl, hne⟩ := hfirst.of_matched
    have hsource' : source.toList = before ++ text ++ rest := by rw [hsource, List.append_assoc]
    have hlater := ih hsource'
    rw [Place.after_append] at hlater
    intro t ht
    rw [placeTokens] at ht
    split at ht
    · exact hlater t ht
    · rcases List.mem_cons.1 ht with rfl | ht
      · refine ⟨fun hempty => hne ?_, lies_spanOf hsource _⟩
        rw [← String.toList_ofList (l := text)]
        exact congrArg String.toList hempty
      · exact hlater t ht

/-- Tokens lie between the place where the first element begins and that where the last one
ends. -/
theorem within_of_mem_placeTokens {p : Place} {t : Token} (ht : t ∈ l.placeTokens p es) :
    p.offset ≤ t.span.start ∧ t.span.stop ≤ (p.after (es.flatMap (·.text))).offset := by
  induction es generalizing p with
  | nil => cases ht
  | cons e later ih =>
    rw [List.flatMap_cons, Place.after_append]
    have hnext := p.offset_after e.text
    have hlast := (p.after e.text).offset_after (later.flatMap (·.text))
    rw [placeTokens] at ht
    split at ht
    · obtain ⟨hstart, hstop⟩ := ih ht
      exact ⟨by omega, hstop⟩
    · rcases List.mem_cons.1 ht with rfl | ht
      · simp only [Place.spanOf]
        omega
      · obtain ⟨hstart, hstop⟩ := ih ht
        exact ⟨by omega, hstop⟩

/-- Each token ends before the next one begins. -/
theorem pairwise_placeTokens (p : Place) (es : List Element) :
    (l.placeTokens p es).Pairwise fun t u => t.span.stop ≤ u.span.start := by
  induction es generalizing p with
  | nil => exact .nil
  | cons e later ih =>
    rw [placeTokens]
    split
    · exact ih _
    · refine .cons (fun u hu => ?_) (ih _)
      have hnext := p.offset_after e.text
      have hwithin := (within_of_mem_placeTokens hu).1
      simp only [Place.spanOf]
      omega

/-! ## Gaps -/

section Gaps

variable {whole passed text rest : List Char} {start : Nat} {gap : List Element}
  {rule : LexicalRule}

theorem takesTrivia_nil (h : whole = passed ++ s) :
    l.TakesTrivia whole (Text.byteLength passed) [] s :=
  ⟨passed, s, h, rfl, .stop s, List.forall_mem_nil _⟩

/-- A gap grows by what the next rule takes, if that is trivia. -/
theorem TakesTrivia.snoc (h : l.TakesTrivia whole start gap s)
    (hfirst : ReactsFirst l.rules s rule (.matched text rest)) (hrule : rule.kind.isTrivia = true) :
    l.TakesTrivia whole start (gap ++ [⟨rule, text⟩]) rest := by
  obtain ⟨before, s₀, hwhole, hstart, hgap, htrivia⟩ := h
  exact ⟨before, s₀, hwhole, hstart, hgap.append (.step hfirst (.stop rest)),
    List.forall_mem_append.2 ⟨htrivia, List.forall_mem_singleton.2 hrule⟩⟩

/-- A gap ends where the rest begins. -/
theorem TakesTrivia.onlyTrivia (h : l.TakesTrivia whole start gap rest)
    (hrest : whole = passed ++ rest) : l.OnlyTrivia whole start (Text.byteLength passed) := by
  refine ⟨gap, rest, h, ?_⟩
  obtain ⟨before, s, hwhole, rfl, hgap, -⟩ := h
  rw [← hgap.flatMap_append, ← List.append_assoc] at hwhole
  have hpassed : passed = before ++ gap.flatMap (·.text) :=
    List.append_cancel_right (hrest.symm.trans hwhole)
  rw [hwhole, hpassed, Text.byteLength_append, List.append_assoc, Text.slice?_append]

/-- Between two tokens of a run, before the first and behind the last there is nothing but trivia.
The induction follows the run; `gap` is what has been passed since the last token. -/
theorem isChain_placeTokens {last : Span} {p : Place} (hrun : Run l.rules s es left)
    (hwhole : whole = passed ++ s) (hp : p.offset = Text.byteLength passed)
    (hgap : l.TakesTrivia whole last.stop gap s) :
    (last :: ((l.placeTokens p es).map (·.span) ++
      [(p.after (es.flatMap (·.text))).span])).IsChain
        fun t u => l.OnlyTrivia whole t.stop u.start := by
  induction hrun generalizing passed gap last p with
  | stop =>
    have hbehind : l.OnlyTrivia whole last.stop p.offset := hp ▸ hgap.onlyTrivia hwhole
    exact .cons_cons hbehind (.singleton _)
  | @step s text rest left rule later hfirst _ ih =>
    have hbehind : l.OnlyTrivia whole last.stop p.offset := hp ▸ hgap.onlyTrivia hwhole
    obtain ⟨rfl, -⟩ := hfirst.of_matched
    have hwhole' : whole = passed ++ text ++ rest := by rw [hwhole, List.append_assoc]
    have hp' : (p.after text).offset = Text.byteLength (passed ++ text) := by
      rw [Place.offset_after, hp, Text.byteLength_append]
    rw [placeTokens, List.flatMap_cons, Place.after_append]
    by_cases hkind : rule.kind.isTrivia = true
    · rw [if_pos hkind]
      exact ih hwhole' hp' (hgap.snoc hfirst hkind)
    · -- Behind the token nothing has been passed yet.
      have hnone : l.TakesTrivia whole (p.spanOf text).stop [] rest := by
        show l.TakesTrivia whole (p.offset + Text.byteLength text) [] rest
        rw [← Place.offset_after, hp']
        exact takesTrivia_nil hwhole'
      rw [if_neg hkind]
      exact .cons_cons hbehind (ih hwhole' hp' hnone)

end Gaps

/-- **A run to the end of a text leaves tokens that partition it.** -/
theorem partitions_of_run (hrun : Run l.rules source.toList es []) :
    l.Partitions source
      (l.placeTokens .first es ++ [.endOfFile (Place.first.after source.toList).span]) := by
  have hparts : es.flatMap (·.text) = source.toList := by
    rw [← hrun.flatMap_append, List.append_nil]
  have hoffset : (Place.first.after source.toList).offset = Text.byteLength source.toList :=
    (Place.first.offset_after _).trans (Nat.zero_add _)
  have hfront := lies_of_mem_placeTokens hrun (List.nil_append source.toList).symm
  have hend : Lies source (.endOfFile (Place.first.after source.toList).span) :=
    lies_spanOf (List.append_nil source.toList).symm .endOfFile
  have hlies : ∀ t ∈ l.placeTokens .first es ++ [.endOfFile (Place.first.after source.toList).span],
      Lies source t :=
    List.forall_mem_append.2 ⟨fun t ht => (hfront t ht).2, List.forall_mem_singleton.2 hend⟩
  refine ⟨⟨_, _, rfl, fun t ht => (hfront t ht).1, hoffset, hoffset⟩, fun t ht => (hlies t ht).text,
    fun t ht => (hlies t ht).place, ?_, ?_⟩
  · refine List.pairwise_append.2 ⟨pairwise_placeTokens _ _, List.pairwise_singleton _ _, ?_⟩
    intro t ht u hu
    rw [List.mem_singleton.1 hu]
    have hwithin := (within_of_mem_placeTokens ht).2
    rw [hparts] at hwithin
    exact hwithin
  · have hbegin := (List.nil_append source.toList).symm
    have hnone : l.TakesTrivia source.toList Place.first.span.stop [] source.toList :=
      takesTrivia_nil hbegin
    have hchain := isChain_placeTokens (p := .first) hrun hbegin rfl hnone
    rw [hparts] at hchain
    rw [List.map_append]
    exact hchain

/-! ## Errors -/

/-- What stands in the way of cutting a text any further. -/
def Obstructs (rules : List LexicalRule) (rest : List Char) : LexError.Cause → Prop
  | .unrecognised c => rest.head? = some c ∧ ∀ r ∈ rules, r.react rest = none
  | .unterminated name => ∃ rule, rule.name = name ∧ ReactsFirst rules rest rule .unterminated

/-- An error lies at the end of what can be cut, before the end of the text, and says why it cannot
be cut any further. -/
def StopsAt (l : Lexer) (source : String) (e : LexError) : Prop :=
  ∃ es rest, Run l.rules source.toList es rest ∧ e.span.BeginsAfter (es.flatMap (·.text)) ∧
    e.span.stop = e.span.start ∧ e.span.start < Text.byteLength source.toList ∧
    Obstructs l.rules rest e.cause

/-- What is left of a text that was cut as far as the rules go stands in the way. -/
theorem obstructs_of_obstacle? {cause : LexError.Cause}
    (hstop : ∀ rule text rest, firstReaction? l.rules s ≠ some (rule, .matched text rest))
    (h : obstacle? l.rules s = some cause) : Obstructs l.rules s cause := by
  cases s with
  | nil => cases h
  | cons c s =>
    rw [obstacle?] at h
    split at h
    · rename_i rule hfirst
      cases h
      exact ⟨rule, rfl, firstReaction?_eq_some_iff.1 hfirst⟩
    · rename_i hother
      cases h
      refine ⟨rfl, firstReaction?_eq_none_iff.1 ?_⟩
      cases hfirst : firstReaction? l.rules (c :: s) with
      | none => rfl
      | some pair =>
        obtain ⟨rule, reaction⟩ := pair
        cases reaction with
        | matched text rest => exact absurd hfirst (hstop rule text rest)
        | unterminated => exact absurd hfirst (hother rule)

/-- Cutting goes on as long as something is taken. -/
theorem firstReaction?_left (rules : List LexicalRule) (s : List Char) (rule : LexicalRule)
    (text rest : List Char) :
    firstReaction? rules (elements rules s).2 ≠ some (rule, .matched text rest) := by
  fun_induction elements rules s with
  | case1 s _ _ _ _ later left heq ih =>
    rw [heq] at ih
    exact ih
  | case2 s hno => exact hno rule text rest

/-- **A lexer partitions a text**, or stops where it can go no further. -/
theorem partitions_of_lex (l : Lexer) (source : String) :
    match l.lex source with
    | .ok tokens => l.Partitions source tokens
    | .error e => l.StopsAt source e := by
  have hrun := run_elements l.rules source.toList
  have hparts := hrun.flatMap_append
  rw [lex_eq]
  cases hobstacle : obstacle? l.rules (elements l.rules source.toList).2 with
  | some cause =>
    have hleft : (elements l.rules source.toList).2 ≠ [] := by
      intro hnil
      rw [hnil] at hobstacle
      cases hobstacle
    have hbegin := Span.beginsAfter_spanOf ((elements l.rules source.toList).1.flatMap (·.text)) []
    have hlength := congrArg Text.byteLength hparts
    rw [Text.byteLength_append, ← hbegin.start] at hlength
    refine ⟨_, _, hrun, hbegin, rfl, ?_,
      obstructs_of_obstacle? (firstReaction?_left l.rules source.toList) hobstacle⟩
    exact hlength ▸ Nat.lt_add_of_pos_right (Text.byteLength_pos hleft)
  | none =>
    rw [obstacle?_eq_none.1 hobstacle, List.append_nil] at hparts
    rw [obstacle?_eq_none.1 hobstacle] at hrun
    rw [hparts]
    exact partitions_of_run hrun

end Lexer

end SqlDialects
