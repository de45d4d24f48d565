/-!
# Numeric literals

A numeric literal is digits, perhaps a point with more digits behind it, perhaps
an exponent; or it begins with the point, and then digits must follow.  Digits
are the ten of ASCII.  What comes after a numeral may not look like more of it: a
numeral before a letter, a digit, an underscore or a point is no numeral, and no
shorter part of it is taken instead.
-/

namespace SqlDialects.Lexical

/-- A first part of a text and the rest. -/
abbrev Split := List Char × List Char

/-- The digits that a text begins with. -/
def splitDigits (s : List Char) : Split := (s.takeWhile Char.isDigit, s.dropWhile Char.isDigit)

/-- Digits, at least one of them. -/
def splitSomeDigits? (s : List Char) : Option Split :=
  if (splitDigits s).1.isEmpty then none else some (splitDigits s)

/-- An exponent, if the text begins with its letter; then it has to be complete. -/
def splitExponent? (s : List Char) : Option Split :=
  match s with
  | [] => some ([], [])
  | e :: t =>
    if e = 'e' ∨ e = 'E' then
      match t with
      | sign :: u =>
        if sign = '+' ∨ sign = '-' then
          (splitSomeDigits? u).map fun (digits, rest) => (e :: sign :: digits, rest)
        else
          (splitSomeDigits? t).map fun (digits, rest) => (e :: digits, rest)
      | [] => none
    else
      some ([], s)

/-- A point and the digits behind it, if there is a point. -/
def splitFraction (s : List Char) : Split :=
  match s with
  | '.' :: t => ('.' :: (splitDigits t).1, (splitDigits t).2)
  | _ => ([], s)

/-- A character that may not follow a numeral. -/
def continuesNumeral (c : Char) : Bool := c == '.' || c.isAlphanum || c == '_'

/-- A numeral up to its exponent. -/
def splitMantissa? (s : List Char) : Option Split :=
  match s with
  | [] => none
  | c :: t =>
    if c = '.' then
      (splitSomeDigits? t).map fun (digits, rest) => ('.' :: digits, rest)
    else if c.isDigit then
      let whole := splitDigits s
      let fraction := splitFraction whole.2
      some (whole.1 ++ fraction.1, fraction.2)
    else
      none

/-- The numeral that a text begins with. -/
def splitNumeral? (s : List Char) : Option Split :=
  match splitMantissa? s with
  | none => none
  | some (mantissa, rest) =>
    match splitExponent? rest with
    | none => none
    | some (exponent, rest) =>
      if rest.head?.any continuesNumeral then none else some (mantissa ++ exponent, rest)

/-! ## A numeral and what it leaves make up the text -/

theorem append_splitDigits (s : List Char) : (splitDigits s).1 ++ (splitDigits s).2 = s :=
  List.takeWhile_append_dropWhile

theorem append_of_splitSomeDigits? {s t rest : List Char}
    (h : splitSomeDigits? s = some (t, rest)) : t ++ rest = s := by
  unfold splitSomeDigits? at h
  split at h
  · cases h
  · have := append_splitDigits s
    rwa [Option.some.inj h] at this

theorem append_splitFraction (s : List Char) :
    (splitFraction s).1 ++ (splitFraction s).2 = s := by
  unfold splitFraction
  split
  · simp [append_splitDigits]
  · rfl

theorem append_of_splitExponent? {s t rest : List Char}
    (h : splitExponent? s = some (t, rest)) : t ++ rest = s := by
  unfold splitExponent? at h
  split at h
  · simp_all
  · split at h
    · split at h
      · split at h
        all_goals
          obtain ⟨⟨d, r⟩, hd, heq⟩ := Option.map_eq_some_iff.1 h
          obtain ⟨rfl, rfl⟩ := Prod.mk.inj heq
          simp [append_of_splitSomeDigits? hd]
      · cases h
    · obtain ⟨rfl, rfl⟩ := Prod.mk.inj (Option.some.inj h)
      rfl

theorem append_of_splitMantissa? {s t rest : List Char}
    (h : splitMantissa? s = some (t, rest)) : t ++ rest = s := by
  unfold splitMantissa? at h
  split at h
  · cases h
  · split at h
    · rename_i hc
      obtain ⟨⟨d, r⟩, hd, heq⟩ := Option.map_eq_some_iff.1 h
      obtain ⟨rfl, rfl⟩ := Prod.mk.inj heq
      simp [append_of_splitSomeDigits? hd, hc]
    · split at h
      · simp only [Option.some.injEq, Prod.mk.injEq] at h
        rw [← h.1, ← h.2, List.append_assoc, append_splitFraction, append_splitDigits]
      · cases h

theorem append_of_splitNumeral? {s t rest : List Char}
    (h : splitNumeral? s = some (t, rest)) : t ++ rest = s := by
  unfold splitNumeral? at h
  split at h
  · cases h
  · rename_i mantissa rest₁ hm
    split at h
    · cases h
    · rename_i exponent rest₂ he
      split at h
      · cases h
      · obtain ⟨rfl, rfl⟩ := Prod.mk.inj (Option.some.inj h)
        rw [List.append_assoc, append_of_splitExponent? he, append_of_splitMantissa? hm]

end SqlDialects.Lexical
