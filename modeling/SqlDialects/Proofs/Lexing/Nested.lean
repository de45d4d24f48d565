import SqlDialects.Proofs.Lexing.Enclosed
import SqlDialects.Proofs.Statements.Outcome

/-!
# Exactly the nested comments

A comment is what is read from its opening mark on, one mark or one character at a time,
until as many marks have closed as have opened.  Both marks are made of the same two
characters, so what closes a comment depends on how the text before it was read: `/*/`
has closed nothing, and in `**/` only the second star belongs to a mark.

`Closes depth t` is this reading, said of the text that it goes over and not of the one
that it stops in, and a text begins with at most one comment (`Closes.unique`).  The rule
for comments agrees with it up to one character.  A scanner asks what comes next and is
told NUL where the text ends, so it takes a NUL for the end wherever that stands, and a
comment with one in it is found unterminated although it closes (`not_taken_nul`).  There
is no other exception (`comment_taken_exactly`).
-/

namespace SqlDialects

namespace Lexical

/-! ## Comments -/

/-- Whether a text begins with a mark that opens or closes a comment. -/
def BeginsMark (s : List Char) : Prop := ∃ u, s = '/' :: '*' :: u ∨ s = '*' :: '/' :: u

/-- Read from so many comments deep on, a text closes them all, and not before its end. -/
inductive Closes : Nat → List Char → Prop where
  | done : Closes 0 []
  | opening {depth : Nat} {t : List Char} (h : Closes (depth + 2) t) :
    Closes (depth + 1) ('/' :: '*' :: t)
  | closing {depth : Nat} {t : List Char} (h : Closes depth t) :
    Closes (depth + 1) ('*' :: '/' :: t)
  | other {depth : Nat} {c : Char} {t : List Char} (hmark : ¬BeginsMark (c :: t))
    (h : Closes (depth + 1) t) : Closes (depth + 1) (c :: t)

/-- A comment, with the comments in it. -/
def IsComment (p : List Char) : Prop := ∃ t, p = '/' :: '*' :: t ∧ Closes 1 t

variable {depth n : Nat} {c : Char} {s t t' p q u v rest : List Char}

theorem Closes.ne_nil (h : Closes (depth + 1) t) : t ≠ [] := by
  cases h <;> exact List.cons_ne_nil _ _

/-- What begins no mark begins none if the text that follows begins alike. -/
theorem not_beginsMark_of_append (ht : t ≠ []) (h : ¬BeginsMark (c :: t)) (rest : List Char) :
    ¬BeginsMark (c :: (t ++ rest)) := by
  obtain ⟨d, t, rfl⟩ := List.exists_cons_of_ne_nil ht
  rintro ⟨u, hu | hu⟩ <;> cases hu
  · exact h ⟨t, .inl rfl⟩
  · exact h ⟨t, .inr rfl⟩

/-- **Where reading stops is settled by the text that is read.** -/
theorem Closes.unique (h : Closes n t) (h' : Closes n t') (heq : t ++ u = t' ++ v) : t = t' := by
  induction h generalizing t' with
  | done =>
    cases h'
    rfl
  | opening h ih =>
    cases h' with
    | opening h' => rw [ih h' (by simpa using heq)]
    | closing => cases heq
    | other hmark h' =>
      exact absurd ⟨_, .inl heq.symm⟩ (not_beginsMark_of_append h'.ne_nil hmark v)
  | closing h ih =>
    cases h' with
    | opening => cases heq
    | closing h' => rw [ih h' (by simpa using heq)]
    | other hmark h' =>
      exact absurd ⟨_, .inr heq.symm⟩ (not_beginsMark_of_append h'.ne_nil hmark v)
  | other hmark h ih =>
    have hmark := not_beginsMark_of_append h.ne_nil hmark u
    cases h' with
    | opening => exact absurd ⟨_, .inl heq⟩ hmark
    | closing => exact absurd ⟨_, .inr heq⟩ hmark
    | other _ h' =>
      rw [List.cons_append, List.cons_append] at heq
      obtain ⟨rfl, htail⟩ := List.cons.inj heq
      rw [ih h' htail]

/-! ## The scanner -/

theorem splitOpenComment?_other (hnul : c ≠ '\x00') (hmark : ¬BeginsMark (c :: s)) :
    splitOpenComment? depth (c :: s) =
      (splitOpenComment? depth s).map fun (t, rest) => (c :: t, rest) := by
  rw [splitOpenComment?]
  · exact hnul
  · rintro u rfl rfl
    exact hmark ⟨u, .inl rfl⟩
  · rintro u rfl rfl
    exact hmark ⟨u, .inr rfl⟩

/-- What a scanner takes closes all that was open, and has no NUL in it. -/
theorem closes_of_splitOpenComment? (h : splitOpenComment? depth s = some (t, rest)) :
    Closes (depth + 1) t ∧ '\x00' ∉ t := by
  fun_induction splitOpenComment? depth s generalizing t rest with
  | case1 => cases h
  | case2 => cases h
  | case3 depth s ih =>
    obtain ⟨x, hx, heq⟩ := Option.map_eq_some_iff.1 h
    cases heq
    obtain ⟨hcloses, hnul⟩ := ih hx
    exact ⟨.opening hcloses, by simpa using hnul⟩
  | case4 s =>
    cases h
    exact ⟨.closing .done, by simp⟩
  | case5 depth s ih =>
    obtain ⟨x, hx, heq⟩ := Option.map_eq_some_iff.1 h
    cases heq
    obtain ⟨hcloses, hnul⟩ := ih hx
    exact ⟨.closing hcloses, by simpa using hnul⟩
  | case6 depth c s hc hopen hclose ih =>
    obtain ⟨⟨t, rest⟩, hx, heq⟩ := Option.map_eq_some_iff.1 h
    cases heq
    obtain ⟨hcloses, hnul⟩ := ih hx
    obtain rfl := append_of_splitOpenComment? hx
    refine ⟨.other ?_ hcloses, by simpa using ⟨Ne.symm hc, hnul⟩⟩
    rintro ⟨u, hu | hu⟩ <;> cases hu
    · exact hopen (u ++ rest) rfl rfl
    · exact hclose (u ++ rest) rfl rfl

/-- What closes all that is open is taken, if there is no NUL in it. -/
theorem Closes.splitOpenComment? (h : Closes (depth + 1) t) (hnul : '\x00' ∉ t)
    (rest : List Char) : splitOpenComment? depth (t ++ rest) = some (t, rest) := by
  generalize hn : depth + 1 = n at h
  induction h generalizing depth with
  | done => cases hn
  | opening h ih =>
    cases hn
    rw [List.cons_append, List.cons_append, Lexical.splitOpenComment?, ih (by simpa using hnul) rfl]
    rfl
  | closing h ih =>
    obtain rfl := Nat.succ.inj hn
    cases depth with
    | zero =>
      cases h
      rfl
    | succ depth =>
      rw [List.cons_append, List.cons_append, Lexical.splitOpenComment?]
      dsimp only
      rw [ih (by simpa using hnul) rfl]
      rfl
  | other hmark h ih =>
    cases hn
    rw [List.mem_cons, not_or] at hnul
    rw [List.cons_append, splitOpenComment?_other (Ne.symm hnul.1)
      (not_beginsMark_of_append h.ne_nil hmark rest), ih hnul.2 rfl]
    rfl

/-- **What is taken are the comments without NUL.** -/
theorem reactComment_eq_matched_iff :
    reactComment s = some (.matched p rest) ↔ s = p ++ rest ∧ IsComment p ∧ '\x00' ∉ p := by
  constructor
  · intro h
    have hparts := (Pattern.of_react_eq_matched (p := .comment) h).1
    unfold reactComment at h
    split at h
    · split at h
      · cases h
      · rename_i hsplit
        cases h
        obtain ⟨hcloses, hnul⟩ := closes_of_splitOpenComment? hsplit
        exact ⟨hparts.symm, ⟨_, rfl, hcloses⟩, by simpa using hnul⟩
    · cases h
  · rintro ⟨rfl, ⟨t, rfl, hcloses⟩, hnul⟩
    have hsplit := hcloses.splitOpenComment? (fun h => hnul (by simp [h])) rest
    rw [List.cons_append, List.cons_append, reactComment, hsplit]

theorem reactComment_eq_none_iff : reactComment s = none ↔ ¬['/', '*'] <+: s := by
  unfold reactComment
  split
  · rename_i t
    refine iff_of_false ?_ fun hmark => hmark ⟨t, rfl⟩
    split <;> exact Option.some_ne_none _
  · rename_i hmark
    refine iff_of_true rfl ?_
    rintro ⟨t, rfl⟩
    exact hmark t rfl

end Lexical

/-! ## In the built-in dialects -/

namespace DialectName

variable {n : DialectName} {s : List Char} {text : String}

/-- The rule for comments. -/
def commentRule : LexicalRule := ⟨"block_comment", .blockComment, .comment⟩

theorem find?_commentRule (n : DialectName) :
    n.rules.find? (fun r => r.name == "block_comment") = some commentRule := by
  cases n <;> rfl

/-- No rule before the one for comments reacts to a solidus. -/
theorem firstReaction?_comment {reaction : Lexical.Reaction}
    (h : Lexical.reactComment s = some reaction) :
    Lexer.firstReaction? n.lexer.rules s = some (commentRule, reaction) := by
  have hopens : ∀ r ∈ Lexer.rulesBefore n.rules "block_comment",
      r.pattern.opens '/' = false := by
    cases n <;> decide
  have hmark : ['/', '*'] <+: s := by
    by_contra hmark
    rw [Lexical.reactComment_eq_none_iff.2 hmark] at h
    cases h
  obtain ⟨t, rfl⟩ := hmark
  exact Lexer.firstReaction?_of_passed (find?_commentRule n)
    (fun r hr => LexicalRule.react_of_opens_eq_false (hopens r hr) _) h

/-- A text that is one comment has no tokens. -/
theorem lex_of_isComment (h : Lexical.IsComment text.toList) (hnul : '\x00' ∉ text.toList) :
    n.lexer.lex text = .ok [.endOfFile (Place.first.after text.toList).span] := by
  have hreact : Lexical.reactComment text.toList = some (.matched text.toList []) :=
    Lexical.reactComment_eq_matched_iff.2 ⟨(List.append_nil _).symm, h, hnul⟩
  have helements : Lexer.elements n.lexer.rules text.toList = _ :=
    Lexer.elements_of_matched (firstReaction?_comment hreact)
  rw [Lexer.lex_eq, helements, Lexer.elements_nil]
  simp only [Lexer.obstacle?, List.flatMap_cons, List.flatMap_nil, List.append_nil]
  rfl

end DialectName

open Lexical (IsComment)

/-- **The rule for comments takes exactly the comments without NUL**, and it is the same in each
built-in dialect.  A text begins with one comment at most.  A text that begins with the opening mark
and has none but with NUL is unterminated; what does not begin with it is passed over.  A text that
is one comment without NUL has no token but the one that ends it. -/
theorem comment_taken_exactly (n : DialectName) (config? : Option Setting) :
    let rule : LexicalRule := ⟨"block_comment", .blockComment, .comment⟩
    n.rules.find? (fun r => r.name == "block_comment") = some rule ∧
    (∀ s p, rule.match? s = some p ↔ p <+: s ∧ IsComment p ∧ '\x00' ∉ p) ∧
    (∀ s p q, p <+: s → IsComment p → q <+: s → IsComment q → p = q) ∧
    (∀ s, rule.react s = some .unterminated ↔
      ['/', '*'] <+: s ∧ ∀ p, p <+: s → IsComment p → '\x00' ∈ p) ∧
    (∀ s, rule.react s = none ↔ ¬['/', '*'] <+: s) ∧
    ∀ text : String, IsComment text.toList → '\x00' ∉ text.toList →
      ((Dialect.builtin n config?).lex text).outcome =
        .ok [.endOfFile (Place.first.after text.toList).span] := by
  intro rule
  have hmatch : ∀ s p, rule.match? s = some p ↔ p <+: s ∧ IsComment p ∧ '\x00' ∉ p := by
    intro s p
    rw [LexicalRule.match?_eq_some_iff]
    constructor
    · rintro ⟨rest, h⟩
      obtain ⟨hs, hp⟩ := Lexical.reactComment_eq_matched_iff.1 h
      exact ⟨⟨rest, hs.symm⟩, hp⟩
    · rintro ⟨⟨rest, hs⟩, hp⟩
      exact ⟨rest, Lexical.reactComment_eq_matched_iff.2 ⟨hs.symm, hp⟩⟩
  have hnone : ∀ s, rule.react s = none ↔ ¬['/', '*'] <+: s :=
    fun s => Lexical.reactComment_eq_none_iff
  refine ⟨DialectName.find?_commentRule n, hmatch, ?_, ?_, hnone, ?_⟩
  · rintro s _ _ ⟨u, rfl⟩ ⟨t, rfl, ht⟩ ⟨v, heq⟩ ⟨t', rfl, ht'⟩
    simp only [List.cons_append, List.cons.injEq, true_and] at heq
    rw [ht'.unique ht heq]
  · intro s
    rw [Lexical.Reaction.eq_unterminated_iff, Ne, hnone, not_not]
    refine and_congr_right fun _ => forall_congr' fun p => ?_
    rw [← not_exists, ← LexicalRule.match?_eq_some_iff, hmatch]
    tauto
  · intro text h hnul
    exact (Dialect.outcome_lex_eq_ok (DialectName.makes_builtin n config?)).2
      (DialectName.lex_of_isComment h hnul)

/-- Comments in a comment, one closed by the second of two stars, the other beginning with a mark
that shares its star with none. -/
theorem comment_taken_exactly_nested :
    let text := "/* a /* b **/ /*/ */ */"
    IsComment text.toList ∧ '\x00' ∉ text.toList ∧
      ((Dialect.builtin .ansi none).lex text).outcome =
        .ok [.endOfFile (Place.first.after text.toList).span] := by
  intro text
  obtain ⟨-, hmatch, -, -, -, hlex⟩ := comment_taken_exactly .ansi none
  obtain ⟨-, hcomment, hnul⟩ := (hmatch text.toList text.toList).1 (by decide)
  exact ⟨hcomment, hnul, hlex text hcomment hnul⟩

/-- A comment whose only content is NUL is not closed to the rule, and no text to a dialect. -/
theorem not_taken_nul :
    let rule : LexicalRule := ⟨"block_comment", .blockComment, .comment⟩
    let text := "/*\x00*/"
    IsComment text.toList ∧ rule.react text.toList = some .unterminated ∧
      ((Dialect.builtin .ansi none).lex text).outcome =
        .error (.lex ⟨.unterminated "block_comment", Place.first.span⟩) := by
  intro rule text
  have hcomment : IsComment text.toList := by
    have htext : text.toList = ['/', '*', '\x00', '*', '/'] := by decide
    have hmark : ¬Lexical.BeginsMark ['\x00', '*', '/'] := by
      rintro ⟨u, hu | hu⟩ <;> cases hu
    exact ⟨_, htext, .other hmark (.closing .done)⟩
  have hreact : Lexical.reactComment text.toList = some .unterminated := by decide
  refine ⟨hcomment, hreact, ?_⟩
  rw [Dialect.outcome_lex (DialectName.makes_builtin .ansi none),
    Lexer.lex_of_unterminated (by decide) (DialectName.firstReaction?_comment hreact)]
  rfl

end SqlDialects
