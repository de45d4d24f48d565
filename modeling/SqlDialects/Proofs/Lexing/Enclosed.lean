import SqlDialects.Proofs.Lexing.Partition
import SqlDialects.Proofs.Lexing.Quoted

/-!
# Exactly the quoted literals

A rule for quoted literals goes over a text once.  An escape may hide a closing quote,
a closing quote may be half of a doubled one, and either may come last; how a run of
quotes and escapes is read depends on where reading it began.  What a literal is can be
said without reading anything: an opening quote, units, a closing quote.  And it is a
literal of a text that begins with it only where no further closing quote follows, as
that would have made a unit of the two.

`quoted_takes_exactly` says that a rule takes these and nothing else, for any quotes
and any escape but the closing quote.  It follows that a text begins with at most one
literal: the rule takes every one that there is, and takes one at most.
-/

namespace SqlDialects

/-- What a rule is seen to take. -/
theorem LexicalRule.match?_eq_some_iff {r : LexicalRule} {s p : List Char} :
    r.match? s = some p ↔ ∃ rest, r.react s = some (.matched p rest) := by
  unfold match?
  split
  · rename_i text rest hreact
    rw [hreact]
    constructor
    · rintro ⟨⟩
      exact ⟨rest, rfl⟩
    · rintro ⟨_, ⟨⟩⟩
      rfl
  · rename_i hother
    exact iff_of_false nofun fun ⟨rest, hreact⟩ => hother p rest hreact

namespace Lexical

/-- What reacts without taking anything has found something that never closes. -/
theorem Reaction.eq_unterminated_iff {x : Option Reaction} :
    x = some .unterminated ↔ x ≠ none ∧ ∀ text rest, x ≠ some (.matched text rest) := by
  rcases x with _ | _ | _ <;> simp

variable {opening closing : Char} {escape : Option Char} {s p rest : List Char}

/-! ## Literals -/

/-- A quoted literal: an opening quote, units, and a closing quote. -/
def IsQuoted (opening closing : Char) (escape : Option Char) (p : List Char) : Prop :=
  ∃ us : List (List Char), (∀ u ∈ us, IsUnit closing escape u) ∧
    p = opening :: (us.flatten ++ [closing])

/-- A text begins with a quoted literal, and no further closing quote follows that. -/
def BeginsQuoted (opening closing : Char) (escape : Option Char) (s p : List Char) : Prop :=
  IsQuoted opening closing escape p ∧ ∃ rest, s = p ++ rest ∧ rest.head? ≠ some closing

/-- A text begins with the opening quote, but with no literal. -/
def IsUnclosed (opening closing : Char) (escape : Option Char) (s : List Char) : Prop :=
  s.head? = some opening ∧ ∀ p, ¬BeginsQuoted opening closing escape s p

theorem reactQuoted_eq_none_iff :
    reactQuoted opening closing escape s = none ↔ s.head? ≠ some opening := by
  cases s with
  | nil => exact iff_of_true rfl nofun
  | cons c s =>
    rw [reactQuoted]
    by_cases hopening : c = opening
    · rw [if_pos hopening, hopening]
      refine iff_of_false ?_ fun hne => hne rfl
      split <;> exact Option.some_ne_none _
    · rw [if_neg hopening]
      exact iff_of_true rfl fun hhead => hopening (Option.some.inj hhead)

/-- A literal that is not prolonged is what is taken. -/
theorem reactQuoted_of_isQuoted (hquote : some closing ≠ escape)
    (hp : IsQuoted opening closing escape p) (hrest : rest.head? ≠ some closing) :
    reactQuoted opening closing escape (p ++ rest) = some (.matched p rest) := by
  obtain ⟨us, hus, rfl⟩ := hp
  exact reactQuoted_of_splitQuotedBody? opening (splitQuotedBody?_units hquote us hus hrest)

/-- **What is taken are the literals that are not prolonged.** -/
theorem reactQuoted_eq_matched_iff (hquote : some closing ≠ escape) :
    reactQuoted opening closing escape s = some (.matched p rest) ↔
      s = p ++ rest ∧ IsQuoted opening closing escape p ∧ rest.head? ≠ some closing := by
  constructor
  · intro h
    obtain ⟨t, rfl, us, hus, rfl, hrest⟩ := exists_body_of_reactQuoted h
    have hparts := Pattern.of_react_eq_matched (p := .quoted opening closing escape) h
    exact ⟨hparts.1.symm, ⟨us, hus, rfl⟩, hrest⟩
  · rintro ⟨rfl, hp, hrest⟩
    exact reactQuoted_of_isQuoted hquote hp hrest

end Lexical

/-! ## In a lexer -/

namespace Lexer

variable {l : Lexer} {rule : LexicalRule} {reserved : List String} {text : String}

/-- What the first rule to react finds unterminated is an error where the text begins. -/
theorem lex_of_unterminated (htext : text.toList ≠ [])
    (h : firstReaction? l.rules text.toList = some (rule, .unterminated)) :
    l.lex text = .error ⟨.unterminated rule.name, Place.first.span⟩ := by
  have helements : elements l.rules text.toList = ([], text.toList) := by
    rw [elements]
    split
    · rename_i heq
      rw [h] at heq
      cases heq
    · rfl
  have hobstacle : obstacle? l.rules text.toList = some (.unterminated rule.name) := by
    obtain ⟨c, s, hcons⟩ := List.exists_cons_of_ne_nil htext
    rw [hcons] at h ⊢
    rw [obstacle?, h]
  rw [lex_eq, helements]
  simp only [hobstacle]
  rfl

/-- With one rule, a text is found unterminated at its beginning exactly if the rule finds it so. -/
theorem lex_eq_unterminated_iff (htext : text.toList ≠ []) :
    (⟨[rule], reserved⟩ : Lexer).lex text =
        .error ⟨.unterminated rule.name, Place.first.span⟩ ↔
      rule.react text.toList = some .unterminated := by
  constructor
  · intro h
    have hstops := partitions_of_lex ⟨[rule], reserved⟩ text
    rw [h] at hstops
    obtain ⟨es, rest, hrun, hbegin, -, -, rule', -, before, behind, hrules, -, hreact⟩ := hstops
    -- nothing was taken: the error lies where the text begins
    have hnone : es.flatMap (·.text) = [] := by
      by_contra hne
      exact absurd hbegin.start (Nat.ne_of_lt (Text.byteLength_pos hne))
    have hrest : rest = text.toList := by
      rw [← hrun.flatMap_append, hnone]
      rfl
    have hrule : rule' = rule := by
      have hmem : rule' ∈ [rule] := by
        rw [show [rule] = before ++ rule' :: behind from hrules]
        exact List.mem_append_right before List.mem_cons_self
      exact List.mem_singleton.1 hmem
    rwa [hrest, hrule] at hreact
  · intro h
    have hfirst : firstReaction? [rule] text.toList = some (rule, .unterminated) :=
      firstReaction?_eq_some_iff.2 ⟨[], [], rfl, List.forall_mem_nil _, h⟩
    exact lex_of_unterminated (l := ⟨[rule], reserved⟩) htext hfirst

end Lexer

open Lexical (BeginsQuoted IsUnclosed)

/-- **A rule for quoted literals takes exactly these**, whatever the quotes are, and whatever the
escape is, if it is not the closing quote.  A text begins with one of them at most.  What begins
with the opening quote and has none is unterminated, and so it is for a lexer that goes by the
rule; what does not begin with the opening quote is passed over. -/
theorem quoted_takes_exactly (name : String) (kind : TokenKind) (opening closing : Char)
    {escape : Option Char} (hescape : escape ≠ some closing) :
    let rule : LexicalRule := ⟨name, kind, .quoted opening closing escape⟩
    (∀ s p, rule.match? s = some p ↔ BeginsQuoted opening closing escape s p) ∧
    (∀ s p q, BeginsQuoted opening closing escape s p →
      BeginsQuoted opening closing escape s q → p = q) ∧
    (∀ s, rule.react s = some .unterminated ↔ IsUnclosed opening closing escape s) ∧
    (∀ s, rule.react s = none ↔ s.head? ≠ some opening) ∧
    ∀ reserved text,
      (⟨[rule], reserved⟩ : Lexer).lex text = .error ⟨.unterminated name, Place.first.span⟩ ↔
        IsUnclosed opening closing escape text.toList := by
  intro rule
  have hmatch : ∀ s p, rule.match? s = some p ↔ BeginsQuoted opening closing escape s p := by
    intro s p
    rw [LexicalRule.match?_eq_some_iff]
    constructor
    · rintro ⟨rest, h⟩
      obtain ⟨hs, hp, hrest⟩ := (Lexical.reactQuoted_eq_matched_iff hescape.symm).1 h
      exact ⟨hp, rest, hs, hrest⟩
    · rintro ⟨hp, rest, hs, hrest⟩
      exact ⟨rest, (Lexical.reactQuoted_eq_matched_iff hescape.symm).2 ⟨hs, hp, hrest⟩⟩
  have hnone : ∀ s, rule.react s = none ↔ s.head? ≠ some opening :=
    fun s => Lexical.reactQuoted_eq_none_iff
  have hunclosed : ∀ s, rule.react s = some .unterminated ↔
      IsUnclosed opening closing escape s := by
    intro s
    rw [Lexical.Reaction.eq_unterminated_iff, Ne, hnone, not_not]
    refine and_congr_right fun _ => forall_congr' fun p => ?_
    rw [← hmatch, LexicalRule.match?_eq_some_iff, not_exists]
  refine ⟨hmatch, fun s p q hp hq => ?_, hunclosed, hnone, fun reserved text => ?_⟩
  · have hq' := (hmatch s q).2 hq
    rw [(hmatch s p).2 hp] at hq'
    exact Option.some.inj hq'
  · by_cases htext : text.toList = []
    · refine iff_of_false (fun h => ?_) fun h => ?_
      · rw [Lexer.lex_eq, htext, Lexer.elements_nil] at h
        cases h
      · rw [htext] at h
        cases h.1
    · rw [← hunclosed]
      exact Lexer.lex_eq_unterminated_iff htext

/-- Quotes of two bytes with a doubled and an escaped one between them, and quotes that do not close
because the one that would is escaped. -/
theorem quoted_takes_exactly_guillemets :
    let rule : LexicalRule := ⟨"guillemets", .stringLiteral, .quoted '«' '»' (some '§')⟩
    some '§' ≠ some '»' ∧
      BeginsQuoted '«' '»' (some '§') "«a»»§»» »".toList "«a»»§»»".toList ∧
      IsUnclosed '«' '»' (some '§') "«a§»".toList ∧
      (⟨[rule], []⟩ : Lexer).lex "«a§»" =
        .error ⟨.unterminated "guillemets", Place.first.span⟩ := by
  intro rule
  have hescape : some '§' ≠ some '»' := by decide
  obtain ⟨hmatch, -, hunclosed, -, hlex⟩ :=
    quoted_takes_exactly "guillemets" .stringLiteral '«' '»' hescape
  have hopen := (hunclosed "«a§»".toList).1 (by decide +kernel)
  have hclosed := (hmatch "«a»»§»» »".toList "«a»»§»»".toList).1 (by decide +kernel)
  exact ⟨hescape, hclosed, hopen, (hlex [] "«a§»").2 hopen⟩

end SqlDialects
