import SqlDialects.Proofs.Dialect.Assembled
import SqlDialects.Proofs.Lexing.Cut
import SqlDialects.Proofs.Lexing.Opening

/-!
# Words

A word is a letter or an underscore, and then letters, numbers and underscores.
This file says when a word is cut as a word, in all built-in dialects at once:
before anything that could not be more of it (`takes_word`).  The rule for words
comes last in each of them, so the work is to see that every other rule passes a
word over, and that the one repetition of the rule is greedy.

Blanks are here too, because their rule is the same regular expression with other
classes, and because the only thing that has to be known about letters beyond
ASCII is that none of them is a blank (`isLetter_of_isBlank`).
-/

namespace SqlDialects

/-! ## Runs of a class -/

namespace Regex

variable {ρ : Type} {k m : CharClass} {s t rest : List Char} {c : Char}

/-- A repetition takes all of a run, if what comes next can do with that. -/
theorem runMany_append {next : List Char → List Char → Option ρ} {before : List Char} {x : ρ}
    (hall : ∀ d ∈ t, m.contains d = true)
    (hrest : ∀ d, rest.head? = some d → m.contains d = false)
    (hnext : next (t.reverse ++ before) rest = some x) :
    runMany m next before (t ++ rest) = some x := by
  induction t generalizing before with
  | nil =>
    cases rest with
    | nil => exact hnext
    | cons d rest =>
      rw [List.nil_append, runMany, hrest d rfl]
      exact hnext
  | cons d t ih =>
    have hd := hall d List.mem_cons_self
    have htail : runMany m next (d :: before) (t ++ rest) = some x := by
      refine ih (fun e he => hall e (List.mem_cons_of_mem d he)) ?_
      rw [List.reverse_cons, List.append_assoc] at hnext
      exact hnext
    rw [List.cons_append, runMany, hd, if_pos rfl, htail]

/-- What a repetition took is a run of its class. -/
theorem exists_run_of_runMany {next : List Char → List Char → Option ρ} {before : List Char}
    {x : ρ} (h : runMany m next before s = some x) :
    ∃ t rest, s = t ++ rest ∧ (∀ d ∈ t, m.contains d = true) ∧
      next (t.reverse ++ before) rest = some x := by
  induction s generalizing before with
  | nil => exact ⟨[], [], rfl, fun _ hd => absurd hd List.not_mem_nil, h⟩
  | cons c s ih =>
    have hstop : next before (c :: s) = some x →
        ∃ t rest, c :: s = t ++ rest ∧ (∀ d ∈ t, m.contains d = true) ∧
          next (t.reverse ++ before) rest = some x :=
      fun hn => ⟨[], c :: s, rfl, fun _ hd => absurd hd List.not_mem_nil, hn⟩
    rw [runMany] at h
    by_cases hc : m.contains c = true
    · rw [if_pos hc] at h
      split at h
      · rename_i found hrun
        obtain ⟨t, rest, rfl, hall, hn⟩ := ih (hrun.trans h)
        refine ⟨c :: t, rest, rfl, ?_, by simpa using hn⟩
        intro d hd
        rcases List.mem_cons.1 hd with rfl | hd
        · exact hc
        · exact hall d hd
      · exact hstop h
    · rw [if_neg hc] at h
      exact hstop h

theorem run_seq_single (k : CharClass) (r : Regex) (next : List Char → List Char → Option ρ)
    (before : List Char) (c : Char) (s : List Char) :
    run (.seq (.single k) r) next before (c :: s) =
      if k.contains c then run r next (c :: before) s else none := rfl

/-- What an expression took that begins with one character. -/
theorem exists_of_run_seq_single {r : Regex} {next : List Char → List Char → Option ρ}
    {before : List Char} {x : ρ} (h : run (.seq (.single k) r) next before s = some x) :
    ∃ c u, s = c :: u ∧ k.contains c = true ∧ run r next (c :: before) u = some x := by
  cases s with
  | nil => cases h
  | cons c u =>
    rw [run_seq_single] at h
    by_cases hc : k.contains c = true
    · rw [if_pos hc] at h
      exact ⟨c, u, rfl, hc, h⟩
    · rw [if_neg hc] at h
      cases h

/-- A character and a run behind it are taken whole. -/
theorem split?_run (hc : k.contains c = true) (hall : ∀ d ∈ t, m.contains d = true)
    (hrest : ∀ d, rest.head? = some d → m.contains d = false) :
    (Regex.seq (.single k) (.many m)).split? (c :: t ++ rest) = some (c :: t, rest) := by
  rw [split?, List.cons_append, run_seq_single, if_pos hc]
  exact runMany_append hall hrest (by simp)

/-- What such an expression takes is a character and a run. -/
theorem exists_run_of_split?
    (h : (Regex.seq (.single k) (.many m)).split? s = some (t, rest)) :
    ∃ c u, t = c :: u ∧ k.contains c = true ∧ ∀ d ∈ u, m.contains d = true := by
  obtain ⟨c, v, rfl, hc, hrun⟩ := exists_of_run_seq_single h
  obtain ⟨u, rest', -, hall, hn⟩ := exists_run_of_runMany hrun
  refine ⟨c, u, ?_, hc, hall⟩
  simp only [Option.some.injEq, Prod.mk.injEq] at hn
  rw [← hn.1]
  simp

end Regex

/-! ## The characters of words -/

namespace Text

/-- What holds of the blanks, one by one, holds of any. -/
theorem forall_isBlank {P : Char → Prop}
    (h : ∀ v ∈ blankRanges.ranges.flatMap fun r => List.range' r.1 (r.2 + 1 - r.1),
      P (Char.ofNat v))
    {c : Char} (hc : isBlank c = true) : P c := by
  obtain ⟨r, hr, hlo, hhi⟩ := blankRanges.contains_iff.1 hc
  have hmem : c.toNat ∈ List.range' r.1 (r.2 + 1 - r.1) := by
    rw [List.mem_range'_1]
    omega
  have hP := h c.toNat (List.mem_flatMap.2 ⟨r, hr, hmem⟩)
  rwa [Char.ofNat_toNat] at hP

/-- No letter and no number is a blank. -/
theorem isLetter_of_isBlank {c : Char} (h : isBlank c = true) :
    isLetter c = false ∧ isNumber c = false :=
  forall_isBlank (P := fun c => isLetter c = false ∧ isNumber c = false) (by decide +kernel) h

/-- Whether a text is a word. -/
def isWord : List Char → Bool
  | [] => false
  | c :: cs => Ansi.wordStart.contains c && cs.all fun d => Ansi.wordRest.contains d

/-- A character that begins a word, or another that may stand in one. -/
theorem contains_wordRest_of_wordStart {c : Char} (h : Ansi.wordStart.contains c = true) :
    Ansi.wordRest.contains c = true := by
  simp only [Ansi.wordStart, Ansi.wordRest, CharClass.contains, ClassItem.contains, List.any_cons,
    List.any_nil, Bool.or_false, Bool.or_eq_true] at h ⊢
  rcases h with h | h
  · exact Or.inl h
  · exact Or.inr (Or.inr h)

theorem isBlank_of_wordRest {c : Char} (h : Ansi.wordRest.contains c = true) :
    isBlank c = false := by
  cases hb : isBlank c with
  | false => rfl
  | true =>
    obtain ⟨hletter, hnumber⟩ := isLetter_of_isBlank hb
    simp only [Ansi.wordRest, CharClass.contains, ClassItem.contains, List.any_cons,
      List.any_nil, Bool.or_false, hletter, hnumber, Bool.false_or, Bool.and_eq_true,
      decide_eq_true_eq] at h
    have hc : c = '_' := Char.le_antisymm h.2 h.1
    rw [hc] at hb
    exact absurd hb (by decide)

theorem isDigit_of_wordStart {c : Char} (h : Ansi.wordStart.contains c = true) :
    c.isDigit = false := by
  cases hd : c.isDigit with
  | false => rfl
  | true =>
    have hno := forall_isDigit (P := fun c => Ansi.wordStart.contains c = false) (by decide) hd
    rw [h] at hno
    cases hno

/-- A plain name is a word. -/
theorem isWord_of_isPlainName {w : String} (h : isPlainName w = true) :
    isWord w.toList = true := by
  have hletter : ∀ c : Char, c.isAlpha = true → Ansi.wordStart.contains c = true := by
    intro c hc
    simp [Ansi.wordStart, CharClass.contains, ClassItem.contains, isLetter_of_isAlpha hc]
  have hstart : ∀ c : Char, beginsPlainName c = true → Ansi.wordStart.contains c = true := by
    intro c hc
    unfold beginsPlainName at hc
    rcases Bool.or_eq_true _ _ ▸ hc with hc | hc
    · exact hletter c hc
    · rw [beq_iff_eq.1 hc]
      decide
  have hrest : ∀ c : Char, continuesPlainName c = true → Ansi.wordRest.contains c = true := by
    intro c hc
    unfold continuesPlainName Char.isAlphanum at hc
    rcases Bool.or_eq_true _ _ ▸ hc with hc | hc
    · rcases Bool.or_eq_true _ _ ▸ hc with hc | hc
      · exact contains_wordRest_of_wordStart (hletter c hc)
      · simp [Ansi.wordRest, CharClass.contains, ClassItem.contains, isNumber_of_isDigit hc]
    · rw [beq_iff_eq.1 hc]
      decide
  unfold isPlainName at h
  cases hw : w.toList with
  | nil =>
    rw [hw] at h
    cases h
  | cons c cs =>
    rw [hw] at h
    simp only [Bool.and_eq_true, List.all_eq_true] at h
    simp only [isWord, Bool.and_eq_true, List.all_eq_true]
    exact ⟨hstart c h.1, fun d hd => hrest d (h.2 d hd)⟩

end Text

/-! ## Words and blanks in every dialect -/

namespace DialectName

variable (n : DialectName)

/-- The rule for words. -/
def wordRule : LexicalRule :=
  ⟨"word", .word, .regex (.seq (.single Ansi.wordStart) (.many Ansi.wordRest))⟩

/-- The rule for blanks that end no line. -/
def blankRule : LexicalRule :=
  ⟨"whitespace", .whitespace, .regex (.oneOrMore Ansi.blank)⟩

/-- What begins like a word is no blank. -/
theorem react_blankRule_of_wordStart {c : Char} (hc : Ansi.wordStart.contains c = true)
    (s : List Char) : blankRule.react (c :: s) = none := by
  have hblank := Text.isBlank_of_wordRest (Text.contains_wordRest_of_wordStart hc)
  refine LexicalRule.react_of_opens_eq_false ?_ s
  show Ansi.blank.contains c = false
  simp [Ansi.blank, CharClass.contains, ClassItem.contains, hblank]

/-- No rule before the one for words reacts to what begins like a word. -/
theorem react_of_wordStart {c : Char} (hc : Ansi.wordStart.contains c = true) (s : List Char) :
    ∀ r ∈ Lexer.rulesBefore n.rules "word", r.react (c :: s) = none := by
  have hrules : ∀ r ∈ Lexer.rulesBefore n.rules "word",
      r = blankRule ∨ r.pattern.opensOnly (fun d => !Ansi.wordStart.contains d) = true := by
    cases n <;> decide +kernel
  intro r hr
  rcases hrules r hr with rfl | hopens
  · exact react_blankRule_of_wordStart hc s
  · exact Lexical.Pattern.react_of_opensOnly hopens (by rw [hc]; rfl) s

/-- What may follow a word: nothing that could be more of it. -/
def EndsWord (o : Option Char) : Prop := ∀ c, o = some c → Ansi.wordRest.contains c = false

/-- What may follow a blank: no other blank. -/
def EndsBlank (o : Option Char) : Prop := ∀ c, o = some c → Text.isBlank c = false

/-- The kind that the lexer gives to a word. -/
def wordKind (w : String) : TokenKind := if n.lexer.isReserved w then .keyword else .word

/-- **A word is taken as a word**, or as a keyword if it is reserved, by any lexer with the rules of
a built-in dialect. -/
theorem takes_word_of_rules {l : Lexer} (hl : l.rules = n.rules) {w : String}
    (hw : Text.isWord w.toList = true) :
    l.Takes EndsWord w.toList (if l.isReserved w then .keyword else .word) := by
  intro rest hrest
  refine ⟨wordRule, ?_, ?_⟩
  · rw [hl]
    cases hcs : w.toList with
    | nil =>
      rw [hcs] at hw
      cases hw
    | cons c cs =>
      rw [hcs, Text.isWord, Bool.and_eq_true, List.all_eq_true] at hw
      have hreact : wordRule.react (c :: cs ++ rest) = some (.matched (c :: cs) rest) := by
        have hsplit := Regex.split?_run hw.1 hw.2 hrest
        show Lexical.Reaction.ofSplit? (Regex.split? _ _) = _
        rw [hsplit]
        rfl
      refine Lexer.firstReaction?_of_passed ?_ (n.react_of_wordStart hw.1 (cs ++ rest)) hreact
      cases n <;> rfl
  · show (if _ then _ else _) = _
    rw [String.ofList_toList]
    by_cases hr : l.isReserved w = true
    · rw [if_pos ⟨rfl, hr⟩, if_pos hr]
    · rw [if_neg fun h => hr h.2, if_neg hr]
      rfl

theorem takes_word {w : String} (hw : Text.isWord w.toList = true) :
    n.lexer.Takes EndsWord w.toList (n.wordKind w) :=
  n.takes_word_of_rules rfl hw

/-- One blank is taken as white space. -/
theorem takes_blank : n.lexer.Takes EndsBlank [' '] .whitespace := by
  intro rest hrest
  have hends : ∀ d, rest.head? = some d → Ansi.blank.contains d = false := by
    intro d hd
    simp [Ansi.blank, CharClass.contains, ClassItem.contains, hrest d hd]
  have hreact : blankRule.react ([' '] ++ rest) = some (.matched [' '] rest) := by
    have hsplit := Regex.split?_run (k := Ansi.blank) (c := ' ') (t := []) (by decide)
      (fun d hd => absurd hd List.not_mem_nil) hends
    show Lexical.Reaction.ofSplit? (Regex.split? _ _) = _
    rw [Regex.oneOrMore, hsplit]
    rfl
  refine ⟨blankRule, Lexer.firstReaction?_of_passed ?_ ?_ hreact, rfl⟩
  · cases n <;> rfl
  · have hfirst : Lexer.rulesBefore n.rules blankRule.name = [] := by
      cases n <;> rfl
    show ∀ r ∈ Lexer.rulesBefore n.rules blankRule.name, _
    rw [hfirst]
    exact fun r hr => absurd hr List.not_mem_nil

end DialectName

end SqlDialects
