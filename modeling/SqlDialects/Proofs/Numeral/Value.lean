import Mathlib.Data.Nat.Digits.Defs
import SqlDialects.Proofs.Lexing.Casing
import SqlDialects.Render.Leaf

/-!
# What a numeral denotes

A numeral of a radix denotes the number that its digits are the digits of, most
significant first.  That is said here by digits and their sum of powers
(`Numeral.Denotes`), and reading a numeral digit by digit comes to the same
(`readNatural?_eq_some_iff`), in every radix up to sixteen.
-/

namespace SqlDialects
namespace Numeral

variable {radix value : Nat} {c : Char} {s : List Char}

/-- A digit of a radix, in either case, and its value. -/
def IsDigit (radix : Nat) (c : Char) (value : Nat) : Prop :=
  value < radix ∧ c.toLower = Nat.digitChar value

/-- A numeral of a radix, perhaps behind a plus sign, and the number that it denotes. -/
def Denotes (radix : Nat) (s : List Char) (value : Nat) : Prop :=
  ∃ cs digits, (s = cs ∨ s = '+' :: cs) ∧ cs ≠ [] ∧ List.Forall₂ (IsDigit radix) cs digits ∧
    value = Nat.ofDigits radix digits.reverse

/-! ## Digits -/

theorem digitValue?_eq_some_iff (hradix : radix ≤ 16) :
    digitValue? radix c = some value ↔ IsDigit radix c value := by
  unfold digitValue? IsDigit
  rw [Option.filter_eq_some_iff, decide_eq_true_iff, and_comm]
  refine and_congr_right fun hvalue => ?_
  have hmem : value ∈ List.range 16 := List.mem_range.2 (Nat.lt_of_lt_of_le hvalue hradix)
  split
  · rename_i hdigit
    exact Text.forall_isDigit (P := fun c => ∀ v ∈ List.range 16,
      some (c.toNat - '0'.toNat) = some v ↔ c.toLower = Nat.digitChar v)
      (by decide) hdigit value hmem
  · rename_i hdigit
    split
    · rename_i hlower
      exact Text.forall_isLower (P := fun c => ∀ v ∈ List.range 16,
        some (c.toNat - 'a'.toNat + 10) = some v ↔ c.toLower = Nat.digitChar v)
        (by decide) hlower value hmem
    · rename_i hlower
      split
      · rename_i hupper
        exact Text.forall_isUpper (P := fun c => ∀ v ∈ List.range 16,
          some (c.toNat - 'A'.toNat + 10) = some v ↔ c.toLower = Nat.digitChar v)
          (by decide) hupper value hmem
      · rename_i hupper
        -- Casing leaves the character alone, and no digit is neither a figure nor a letter.
        have hall : ∀ v ∈ List.range 16,
            (Nat.digitChar v).isDigit = true ∨ (Nat.digitChar v).isLower = true := by decide
        rw [Text.toLower_of_not_isUpper (Bool.eq_false_iff.2 hupper)]
        refine iff_of_false nofun ?_
        rintro rfl
        exact (hall value hmem).elim hdigit hlower

theorem not_isDigit_plus (hradix : radix ≤ 16) : ¬ IsDigit radix '+' value := by
  rw [← digitValue?_eq_some_iff hradix]
  exact nofun

/-! ## Numerals -/

/-- Digits behind a number denote that number as a further digit in front of them. -/
theorem digitsValue?_eq_some_iff (hradix : radix ≤ 16) {acc : Nat} :
    digitsValue? radix acc s = some value ↔
      ∃ digits, List.Forall₂ (IsDigit radix) s digits ∧
        value = Nat.ofDigits radix (digits.reverse ++ [acc]) := by
  induction s generalizing acc with
  | nil =>
    rw [digitsValue?, Option.some_inj]
    constructor
    · rintro rfl
      exact ⟨[], .nil, Nat.ofDigits_singleton.symm⟩
    · rintro ⟨digits, hdigits, rfl⟩
      cases hdigits
      exact Nat.ofDigits_singleton.symm
  | cons c s ih =>
    have hstep : ∀ (d : Nat) (digits : List Nat),
        Nat.ofDigits radix (digits.reverse ++ [radix * acc + d]) =
          Nat.ofDigits radix ((d :: digits).reverse ++ [acc]) := by
      intro d digits
      simp only [List.reverse_cons, List.append_assoc, Nat.ofDigits_append, List.singleton_append,
        Nat.ofDigits_cons, Nat.ofDigits_nil]
      ring
    rw [digitsValue?, Option.bind_eq_some_iff]
    constructor
    · rintro ⟨d, hd, hrest⟩
      obtain ⟨digits, hdigits, rfl⟩ := ih.1 hrest
      exact ⟨d :: digits, .cons ((digitValue?_eq_some_iff hradix).1 hd) hdigits, hstep d digits⟩
    · rintro ⟨_, hall, rfl⟩
      cases hall with
      | @cons _ d _ digits hd hdigits =>
        refine ⟨d, (digitValue?_eq_some_iff hradix).2 hd, ih.2 ⟨digits, hdigits, ?_⟩⟩
        exact (hstep d digits).symm

/-- Digits without a sign are read as the number that they denote, if there are any. -/
theorem readDigits_eq_some_iff (hradix : radix ≤ 16) :
    (if s.isEmpty then none else digitsValue? radix 0 s) = some value ↔
      s ≠ [] ∧ ∃ digits, List.Forall₂ (IsDigit radix) s digits ∧
        value = Nat.ofDigits radix digits.reverse := by
  cases s with
  | nil => simp
  | cons c s =>
    show digitsValue? radix 0 (c :: s) = some value ↔ _
    rw [digitsValue?_eq_some_iff hradix]
    simp only [Nat.ofDigits_append_zero, ne_eq, List.cons_ne_nil, not_false_eq_true, true_and]

/-- **Reading a numeral gives the number that it denotes**, and whatever denotes none is refused. -/
theorem readNatural?_eq_some_iff (hradix : radix ≤ 16) :
    readNatural? radix s = some value ↔ Denotes radix s value := by
  unfold readNatural? Denotes
  split
  · rename_i rest
    refine (readDigits_eq_some_iff hradix).trans ⟨?_, ?_⟩
    · rintro ⟨hne, digits, hdigits, hvalue⟩
      exact ⟨rest, digits, Or.inr rfl, hne, hdigits, hvalue⟩
    · rintro ⟨cs, digits, rfl | hcs, hne, hdigits, hvalue⟩
      · cases hdigits with
        | cons hplus => exact absurd hplus (not_isDigit_plus hradix)
      · cases hcs
        exact ⟨hne, digits, hdigits, hvalue⟩
  · rename_i hsign
    refine (readDigits_eq_some_iff hradix).trans ⟨?_, ?_⟩
    · rintro ⟨hne, digits, hdigits, hvalue⟩
      exact ⟨s, digits, Or.inl rfl, hne, hdigits, hvalue⟩
    · rintro ⟨cs, digits, rfl | hcs, hne, hdigits, hvalue⟩
      · exact ⟨hne, digits, hdigits, hvalue⟩
      · exact absurd hcs (hsign cs)

end Numeral

end SqlDialects
