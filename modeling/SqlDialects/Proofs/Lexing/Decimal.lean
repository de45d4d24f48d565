import SqlDialects.Proofs.Lexing.Enclosed

/-!
# Exactly the numerals

The scanner for numerals never goes back.  A point that it has passed belongs to the
numeral, with digits behind it or without; the letter of an exponent that is not complete
makes it give up, and so does a character at the end that looks like more.  So it might
well refuse what it would have taken had it stopped sooner.

What a text begins with can be said by the grammar of numerals and the one character that
follows.  `numeral_taken_exactly` says that nothing is lost: where the scanner gives up
there is no numeral to be found, however short, because whatever made it give up follows
that numeral and continues it.
-/

namespace SqlDialects

namespace Lexical

/-- A text begins with a numeral, and what follows is no point, underscore, letter or digit of
ASCII. -/
def BeginsNumeral (s p : List Char) : Prop :=
  IsNumeral p ∧ ∃ rest, s = p ++ rest ∧
    ∀ c, rest.head? = some c → c ≠ '.' ∧ c ≠ '_' ∧ c.isAlpha = false ∧ c.isDigit = false

variable {s : List Char}

theorem endsNumeral_iff {o : Option Char} : EndsNumeral o ↔
    ∀ c, o = some c → c ≠ '.' ∧ c ≠ '_' ∧ c.isAlpha = false ∧ c.isDigit = false := by
  refine forall₂_congr fun c _ => ?_
  simp only [continuesNumeral, Char.isAlphanum, Bool.or_eq_false_iff, beq_eq_false_iff_ne]
  tauto

/-- The pattern for numerals reacts to a text exactly if it begins with one, and takes that. -/
theorem react_numeral_eq_some_iff {reaction : Reaction} :
    Pattern.numeral.react s = some reaction ↔
      ∃ p rest, reaction = .matched p rest ∧ s = p ++ rest ∧ IsNumeral p ∧
        EndsNumeral rest.head? := by
  constructor
  · intro h
    change Reaction.ofSplit? (splitNumeral? s) = some reaction at h
    unfold Reaction.ofSplit? at h
    split at h
    · cases h
    · rename_i p rest hsplit
      split at h
      · cases h
      · cases h
        exact ⟨p, rest, rfl, splitNumeral?_eq_some_iff.1 hsplit⟩
  · rintro ⟨p, rest, rfl, rfl, hp, hrest⟩
    show Reaction.ofSplit? (Lexical.splitNumeral? (p ++ rest)) = _
    rw [hp.splitNumeral? hrest, Reaction.ofSplit?, if_neg]
    simpa using hp.ne_nil

end Lexical

open Lexical (BeginsNumeral)

/-- **The rule for numerals takes exactly these**, and it is the same in each built-in dialect.  A
text begins with one of them at most, and a text that begins with none is passed over. -/
theorem numeral_taken_exactly (n : DialectName) :
    let rule : LexicalRule := ⟨"numeric_literal", .numericLiteral, .numeral⟩
    n.rules.find? (fun r => r.name == "numeric_literal") = some rule ∧
    (∀ s p, rule.match? s = some p ↔ BeginsNumeral s p) ∧
    (∀ s p q, BeginsNumeral s p → BeginsNumeral s q → p = q) ∧
    ∀ s, rule.react s = none ↔ ∀ p, ¬BeginsNumeral s p := by
  intro rule
  have hreact : ∀ {s reaction}, rule.react s = some reaction ↔
      ∃ p rest, reaction = .matched p rest ∧ s = p ++ rest ∧ Lexical.IsNumeral p ∧
        Lexical.EndsNumeral rest.head? := Lexical.react_numeral_eq_some_iff
  have hmatch : ∀ s p, rule.match? s = some p ↔ BeginsNumeral s p := by
    intro s p
    rw [LexicalRule.match?_eq_some_iff]
    constructor
    · rintro ⟨rest, h⟩
      obtain ⟨_, _, ⟨⟩, hs, hp, hrest⟩ := hreact.1 h
      exact ⟨hp, rest, hs, Lexical.endsNumeral_iff.1 hrest⟩
    · rintro ⟨hp, rest, hs, hrest⟩
      exact ⟨rest, hreact.2 ⟨p, rest, rfl, hs, hp, Lexical.endsNumeral_iff.2 hrest⟩⟩
  refine ⟨by cases n <;> rfl, hmatch, fun s p q hp hq => ?_, fun s => ⟨fun hnone p hp => ?_,
    fun hno => Option.eq_none_iff_forall_ne_some.2 fun reaction h => ?_⟩⟩
  · have hq' := (hmatch s q).2 hq
    rw [(hmatch s p).2 hp] at hq'
    exact Option.some.inj hq'
  · obtain ⟨rest, h⟩ := LexicalRule.match?_eq_some_iff.1 ((hmatch s p).2 hp)
    rw [hnone] at h
    cases h
  · obtain ⟨p, rest, rfl, -⟩ := hreact.1 h
    exact hno p ((hmatch s p).1 (LexicalRule.match?_eq_some_iff.2 ⟨rest, h⟩))

/-- A point without digits before an exponent is part of the numeral, and a letter beyond ASCII does
not continue it; but a second point does, even for what stands before the first. -/
theorem numeral_taken_exactly_points :
    let rule : LexicalRule := ⟨"numeric_literal", .numericLiteral, .numeral⟩
    BeginsNumeral "1.e-05é".toList "1.e-05".toList ∧
      (∀ q, BeginsNumeral "1.e-05é".toList q → "1.e-05".toList = q) ∧
      rule.react "1..2".toList = none ∧ ∀ p, ¬BeginsNumeral "1..2".toList p := by
  intro rule
  obtain ⟨-, hmatch, hunique, hnone⟩ := numeral_taken_exactly .clickhouse
  have hbegins := (hmatch "1.e-05é".toList "1.e-05".toList).1 (by decide +kernel)
  have hpassed : rule.react "1..2".toList = none := by decide +kernel
  exact ⟨hbegins, fun q hq => hunique _ _ q hbegins hq, hpassed, (hnone _).1 hpassed⟩

end SqlDialects
