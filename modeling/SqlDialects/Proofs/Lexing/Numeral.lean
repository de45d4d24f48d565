import SqlDialects.Proofs.Lexing.Word

/-!
# Numerals

A numeral can be said without a scanner, by the grammar `IsNumeral`.  The scanner looks
beyond what it takes, once at the end, and refuses a numeral that something continues;
so what it makes of a numeral depends on what follows.  The point of this file is that
it depends on that only through the next character: the scanner takes the numerals
before all that does not continue them, and nothing else (`splitNumeral?_eq_some_iff`).
In particular what the scanner took is a numeral, and a numeral that is written
somewhere else is taken there.

The parts are gone through one by one.  A mantissa may be followed by anything but a
digit and a point, an exponent by anything but a digit; the guard of the whole implies
both of these.
-/

namespace SqlDialects
namespace Lexical

/-- Whether a text is a numeric literal. -/
def isNumeral (t : List Char) : Bool := splitNumeral? t == some (t, [])

/-- What may follow a numeral. -/
def EndsNumeral (o : Option Char) : Prop := ∀ c, o = some c → continuesNumeral c = false

/-- Digits, at least one of them. -/
def AreDigits (t : List Char) : Prop := t ≠ [] ∧ ∀ c ∈ t, c.isDigit = true

/-- Digits, perhaps with a point and more digits, or none, behind it; or a point and digits. -/
inductive IsMantissa : List Char → Prop where
  | whole {w : List Char} (hw : AreDigits w) : IsMantissa w
  | fraction {w f : List Char} (hw : AreDigits w) (hf : ∀ c ∈ f, c.isDigit = true) :
    IsMantissa (w ++ '.' :: f)
  | point {f : List Char} (hf : AreDigits f) : IsMantissa ('.' :: f)

/-- A letter, perhaps a sign, and digits. -/
inductive IsExponent : List Char → Prop where
  | plain {e : Char} {digits : List Char} (he : e = 'e' ∨ e = 'E') (h : AreDigits digits) :
    IsExponent (e :: digits)
  | signed {e sign : Char} {digits : List Char} (he : e = 'e' ∨ e = 'E')
    (hsign : sign = '+' ∨ sign = '-') (h : AreDigits digits) : IsExponent (e :: sign :: digits)

/-- A numeral: a mantissa, and perhaps an exponent. -/
def IsNumeral (p : List Char) : Prop :=
  ∃ m x, p = m ++ x ∧ IsMantissa m ∧ (x = [] ∨ IsExponent x)

section Scanner

variable {s t m x p rest : List Char}

theorem AreDigits.exists_cons (h : AreDigits t) : ∃ c u, t = c :: u ∧ c.isDigit = true := by
  obtain ⟨c, u, rfl⟩ := List.exists_cons_of_ne_nil h.1
  exact ⟨c, u, rfl, h.2 c List.mem_cons_self⟩

theorem IsMantissa.ne_nil (h : IsMantissa m) : m ≠ [] := by
  cases h with
  | whole hw => exact hw.1
  | fraction => simp
  | point => exact List.cons_ne_nil _ _

theorem IsNumeral.ne_nil (h : IsNumeral p) : p ≠ [] := by
  obtain ⟨m, x, rfl, hm, -⟩ := h
  exact List.append_ne_nil_of_left_ne_nil hm.ne_nil x

/-! ## What the scanner takes -/

theorem isDigit_of_mem_splitDigits (s : List Char) :
    ∀ c ∈ (splitDigits s).1, c.isDigit = true := by
  intro c hc
  induction s with
  | nil => cases hc
  | cons d s ih =>
    unfold splitDigits at hc ih
    by_cases hd : d.isDigit = true
    · rw [List.takeWhile_cons_of_pos hd] at hc
      rcases List.mem_cons.1 hc with rfl | hc
      · exact hd
      · exact ih hc
    · rw [List.takeWhile_cons_of_neg hd] at hc
      cases hc

theorem areDigits_of_splitSomeDigits? (h : splitSomeDigits? s = some (t, rest)) : AreDigits t := by
  unfold splitSomeDigits? at h
  split at h
  · cases h
  · rename_i hne
    obtain rfl : (splitDigits s).1 = t := congrArg Prod.fst (Option.some.inj h)
    exact ⟨fun hnil => hne (List.isEmpty_iff.2 hnil), isDigit_of_mem_splitDigits s⟩

/-- A fraction is nothing, or a point and digits, if there are any. -/
theorem splitFraction_cases (s : List Char) :
    (splitFraction s).1 = [] ∨ ∃ f, (splitFraction s).1 = '.' :: f ∧ ∀ c ∈ f, c.isDigit = true := by
  unfold splitFraction
  split
  · exact .inr ⟨_, rfl, isDigit_of_mem_splitDigits _⟩
  · exact .inl rfl

theorem isMantissa_of_splitMantissa? (h : splitMantissa? s = some (m, rest)) : IsMantissa m := by
  unfold splitMantissa? at h
  split at h
  · cases h
  · rename_i c t
    split at h
    · obtain ⟨⟨digits, r⟩, hdigits, heq⟩ := Option.map_eq_some_iff.1 h
      cases heq
      exact .point (areDigits_of_splitSomeDigits? hdigits)
    · split at h
      · rename_i hdigit
        have hwhole : AreDigits (splitDigits (c :: t)).1 := by
          refine ⟨?_, isDigit_of_mem_splitDigits _⟩
          unfold splitDigits
          rw [List.takeWhile_cons_of_pos hdigit]
          exact List.cons_ne_nil _ _
        obtain rfl := congrArg Prod.fst (Option.some.inj h)
        rcases splitFraction_cases (splitDigits (c :: t)).2 with hnone | ⟨f, hf, hall⟩
        · rw [hnone, List.append_nil]
          exact .whole hwhole
        · rw [hf]
          exact .fraction hwhole hall
      · cases h

theorem isExponent_of_splitExponent? (h : splitExponent? s = some (x, rest)) :
    x = [] ∨ IsExponent x := by
  unfold splitExponent? at h
  split at h
  · cases h
    exact .inl rfl
  · split at h
    · rename_i he
      right
      split at h
      · split at h
        · rename_i hsign
          obtain ⟨⟨digits, r⟩, hdigits, heq⟩ := Option.map_eq_some_iff.1 h
          cases heq
          exact .signed he hsign (areDigits_of_splitSomeDigits? hdigits)
        · obtain ⟨⟨digits, r⟩, hdigits, heq⟩ := Option.map_eq_some_iff.1 h
          cases heq
          exact .plain he (areDigits_of_splitSomeDigits? hdigits)
      · cases h
    · cases h
      exact .inl rfl

/-- What the scanner takes is a numeral, and nothing that follows continues it. -/
theorem isNumeral_and_endsNumeral_of_splitNumeral? (h : splitNumeral? s = some (p, rest)) :
    IsNumeral p ∧ EndsNumeral rest.head? := by
  unfold splitNumeral? at h
  split at h
  · cases h
  · rename_i mantissa r hmantissa
    split at h
    · cases h
    · rename_i exponent r' hexponent
      split at h
      · cases h
      · rename_i hends
        cases h
        refine ⟨⟨mantissa, exponent, rfl, isMantissa_of_splitMantissa? hmantissa,
          isExponent_of_splitExponent? hexponent⟩, fun c hc => ?_⟩
        rw [hc] at hends
        simpa using hends

/-! ## What it does not refuse -/

theorem splitDigits_append (hall : ∀ c ∈ t, c.isDigit = true)
    (hrest : ∀ c, rest.head? = some c → c.isDigit = false) :
    splitDigits (t ++ rest) = (t, rest) := by
  have hnone : rest.takeWhile Char.isDigit = [] ∧ rest.dropWhile Char.isDigit = rest := by
    cases rest with
    | nil => exact ⟨rfl, rfl⟩
    | cons c rest =>
      have hc := hrest c rfl
      simp [hc]
  unfold splitDigits
  rw [List.takeWhile_append_of_pos hall, List.dropWhile_append_of_pos hall, hnone.1, hnone.2,
    List.append_nil]

theorem AreDigits.splitSomeDigits? (h : AreDigits t)
    (hrest : ∀ c, rest.head? = some c → c.isDigit = false) :
    splitSomeDigits? (t ++ rest) = some (t, rest) := by
  unfold Lexical.splitSomeDigits?
  rw [splitDigits_append h.2 hrest, if_neg]
  simpa using h.1

/-- What may follow a mantissa. -/
def EndsMantissa (o : Option Char) : Prop := ∀ c, o = some c → c.isDigit = false ∧ c ≠ '.'

theorem EndsNumeral.endsMantissa {o : Option Char} (h : EndsNumeral o) : EndsMantissa o := by
  intro c hc
  have hno := h c hc
  simp only [continuesNumeral, Char.isAlphanum, Bool.or_eq_false_iff, beq_eq_false_iff_ne] at hno
  exact ⟨hno.1.2.2, hno.1.1⟩

theorem splitFraction_point (t : List Char) :
    splitFraction ('.' :: t) = ('.' :: (splitDigits t).1, (splitDigits t).2) := rfl

theorem splitFraction_of_ne (h : s.head? ≠ some '.') : splitFraction s = ([], s) := by
  unfold splitFraction
  split
  · exact absurd rfl h
  · rfl

/-- Digits are taken as a mantissa, with what comes next as a fraction if it is one. -/
theorem AreDigits.splitMantissa? (h : AreDigits t)
    (hrest : ∀ c, rest.head? = some c → c.isDigit = false) :
    splitMantissa? (t ++ rest) =
      some (t ++ (splitFraction rest).1, (splitFraction rest).2) := by
  have hdigits := splitDigits_append h.2 hrest
  obtain ⟨c, u, rfl, hc⟩ := h.exists_cons
  have hpoint : c ≠ '.' := by
    rintro rfl
    cases hc
  rw [List.cons_append] at hdigits ⊢
  rw [Lexical.splitMantissa?, if_neg hpoint, if_pos hc, hdigits]

theorem IsMantissa.splitMantissa? (h : IsMantissa m) (hrest : EndsMantissa rest.head?) :
    splitMantissa? (m ++ rest) = some (m, rest) := by
  have hdigits : ∀ c, rest.head? = some c → c.isDigit = false := fun c hc => (hrest c hc).1
  cases h with
  | whole hw =>
    rw [hw.splitMantissa? hdigits, splitFraction_of_ne fun hpoint => (hrest '.' hpoint).2 rfl,
      List.append_nil]
  | @fraction w f hw hf =>
    have hpoint : ∀ c, ('.' :: (f ++ rest)).head? = some c → c.isDigit = false := by
      rintro c ⟨⟩
      rfl
    rw [List.append_assoc, List.cons_append, hw.splitMantissa? hpoint, splitFraction_point,
      splitDigits_append hf hdigits]
  | point hf =>
    rw [List.cons_append, Lexical.splitMantissa?, if_pos rfl, hf.splitSomeDigits? hdigits]
    rfl

theorem splitExponent?_cons (e : Char) (t : List Char) :
    splitExponent? (e :: t) =
      if e = 'e' ∨ e = 'E' then
        match t with
        | sign :: u =>
          if sign = '+' ∨ sign = '-' then
            (splitSomeDigits? u).map fun (digits, rest) => (e :: sign :: digits, rest)
          else
            (splitSomeDigits? t).map fun (digits, rest) => (e :: digits, rest)
        | [] => none
      else
        some ([], e :: t) := rfl

theorem IsExponent.splitExponent? (h : IsExponent x)
    (hrest : ∀ c, rest.head? = some c → c.isDigit = false) :
    splitExponent? (x ++ rest) = some (x, rest) := by
  cases h with
  | plain he hdigits =>
    have hsplit := hdigits.splitSomeDigits? hrest
    obtain ⟨c, u, rfl, hc⟩ := hdigits.exists_cons
    have hsign : ¬(c = '+' ∨ c = '-') := by
      rintro (rfl | rfl) <;> cases hc
    rw [List.cons_append] at hsplit
    rw [List.cons_append, List.cons_append, splitExponent?_cons, if_pos he]
    dsimp only
    rw [if_neg hsign, hsplit]
    rfl
  | signed he hsign hdigits =>
    rw [List.cons_append, List.cons_append, splitExponent?_cons, if_pos he]
    dsimp only
    rw [if_pos hsign, hdigits.splitSomeDigits? hrest]
    rfl

/-- An exponent begins with its letter, so it ends the mantissa before it. -/
theorem IsExponent.endsMantissa (h : IsExponent x) : EndsMantissa (x ++ rest).head? := by
  intro c hc
  cases h with
  | plain he | signed he =>
    cases hc
    rcases he with rfl | rfl <;> decide

/-- What ends a numeral begins no exponent. -/
theorem splitExponent?_of_endsNumeral (hrest : EndsNumeral rest.head?) :
    splitExponent? rest = some ([], rest) := by
  cases rest with
  | nil => rfl
  | cons c rest =>
    rw [splitExponent?_cons, if_neg]
    rintro (rfl | rfl)
    · exact absurd (hrest 'e' rfl) (by decide)
    · exact absurd (hrest 'E' rfl) (by decide)

/-- **A numeral is taken** before all that does not continue it. -/
theorem IsNumeral.splitNumeral? (h : IsNumeral p) (hrest : EndsNumeral rest.head?) :
    splitNumeral? (p ++ rest) = some (p, rest) := by
  obtain ⟨m, x, rfl, hm, hx⟩ := h
  have hmantissa : splitMantissa? (m ++ (x ++ rest)) = some (m, x ++ rest) := by
    refine hm.splitMantissa? ?_
    rcases hx with rfl | hx
    · exact hrest.endsMantissa
    · exact hx.endsMantissa
  have hexponent : splitExponent? (x ++ rest) = some (x, rest) := by
    rcases hx with rfl | hx
    · exact splitExponent?_of_endsNumeral hrest
    · exact hx.splitExponent? fun c hc => (hrest.endsMantissa c hc).1
  have hends : rest.head?.any continuesNumeral = false := by
    cases hc : rest.head? with
    | none => rfl
    | some c => exact hrest c hc
  rw [List.append_assoc, Lexical.splitNumeral?, hmantissa]
  dsimp only
  rw [hexponent]
  dsimp only
  rw [hends]
  rfl

/-! ## The whole -/

/-- **What the scanner takes are the numerals that nothing continues.** -/
theorem splitNumeral?_eq_some_iff :
    splitNumeral? s = some (p, rest) ↔ s = p ++ rest ∧ IsNumeral p ∧ EndsNumeral rest.head? := by
  constructor
  · intro h
    exact ⟨(append_of_splitNumeral? h).symm, isNumeral_and_endsNumeral_of_splitNumeral? h⟩
  · rintro ⟨rfl, hp, hrest⟩
    exact hp.splitNumeral? hrest

/-- The scanner takes all of a text exactly if that is a numeral. -/
theorem isNumeral_iff : isNumeral t = true ↔ IsNumeral t := by
  rw [isNumeral, beq_iff_eq, splitNumeral?_eq_some_iff, List.append_nil]
  exact ⟨fun h => h.2.1, fun h => ⟨rfl, h, nofun⟩⟩

theorem isNumeral_of_splitNumeral? (h : splitNumeral? s = some (t, rest)) :
    isNumeral t = true :=
  isNumeral_iff.2 (splitNumeral?_eq_some_iff.1 h).2.1

theorem splitNumeral?_of_isNumeral (h : isNumeral t = true) (hrest : EndsNumeral rest.head?) :
    splitNumeral? (t ++ rest) = some (t, rest) :=
  (isNumeral_iff.1 h).splitNumeral? hrest

end Scanner

/-- The decimal numeral of a natural is a numeral. -/
theorem isNumeral_toString (k : Nat) : isNumeral (toString k).toList = true := by
  rw [isNumeral_iff, Nat.toString_eq_repr, Nat.toList_repr]
  have hdigits : AreDigits (Nat.toDigits 10 k) :=
    ⟨Nat.toDigits_ne_nil, fun c hc => Nat.isDigit_of_mem_toDigits (by decide) (by decide) hc⟩
  exact ⟨_, [], (List.append_nil _).symm, .whole hdigits, .inl rfl⟩

end Lexical

/-! ## Hexadecimal and binary literals

ClickHouse has them, behind a zero and a letter.  What the rules take has this
form, so a numeral, which has no letter there, is passed over by both. -/

namespace Clickhouse

open Lexical

/-- Whether a text is digits of a class, at least one. -/
def isDigits (k : CharClass) (s : List Char) : Bool := !s.isEmpty && s.all fun c => k.contains c

theorem isDigits_cons {k : CharClass} {c : Char} {s : List Char} :
    isDigits k (c :: s) = true ↔ k.contains c = true ∧ ∀ d ∈ s, k.contains d = true := by
  simp [isDigits]

/-- What may follow digits of a class. -/
def EndsDigits (k : CharClass) (o : Option Char) : Prop := ∀ c, o = some c → k.contains c = false

section Marked

variable {s t rest : List Char}

theorem split?_hexLiteral {mark : Char} (hmark : mark = 'x' ∨ mark = 'X') {digits : List Char}
    (h : isDigits hexDigit digits = true) (hrest : EndsDigits hexDigit rest.head?) :
    hexLiteral.split? ('0' :: mark :: digits ++ rest) = some ('0' :: mark :: digits, rest) := by
  have hmark : (CharClass.anyOf [.range 'x' 'x', .range 'X' 'X']).contains mark = true := by
    rcases hmark with rfl | rfl <;> decide
  cases digits with
  | nil => cases h
  | cons d ds =>
    rw [isDigits_cons] at h
    rw [Regex.split?, hexLiteral, Regex.oneOrMore]
    simp only [List.cons_append]
    rw [Regex.run_seq_single, if_pos (by decide), Regex.run_seq_single, if_pos hmark,
      Regex.run_seq_single, if_pos h.1]
    exact Regex.runMany_append h.2 hrest (by simp)

theorem split?_bitLiteral {digits : List Char} (h : isDigits bit digits = true)
    (hrest : EndsDigits bit rest.head?) :
    bitLiteral.split? ('0' :: 'b' :: digits ++ rest) = some ('0' :: 'b' :: digits, rest) := by
  cases digits with
  | nil => cases h
  | cons d ds =>
    rw [isDigits_cons] at h
    have htail : (Regex.oneOrMore bit).run (fun before rest => some (before.reverse, rest))
        ['b', '0'] (d :: ds ++ rest) = some ('0' :: 'b' :: d :: ds, rest) := by
      rw [Regex.oneOrMore, List.cons_append, Regex.run_seq_single, if_pos h.1]
      exact Regex.runMany_append h.2 hrest (by simp)
    exact htail

/-- What the rule for hexadecimal literals takes. -/
theorem exists_of_split?_hexLiteral (h : hexLiteral.split? s = some (t, rest)) :
    ∃ x digits, t = '0' :: x :: digits ∧ (x = 'x' ∨ x = 'X') ∧
      isDigits hexDigit digits = true := by
  obtain ⟨z, s₁, rfl, hz, h₁⟩ := Regex.exists_of_run_seq_single h
  obtain ⟨x, s₂, rfl, hx, h₂⟩ := Regex.exists_of_run_seq_single h₁
  obtain ⟨d, s₃, rfl, hd, h₃⟩ := Regex.exists_of_run_seq_single h₂
  obtain ⟨ds, r, -, hall, hn⟩ := Regex.exists_run_of_runMany h₃
  simp only [Option.some.injEq, Prod.mk.injEq] at hn
  rw [CharClass.contains_only, beq_iff_eq] at hz
  refine ⟨x, d :: ds, ?_, ?_, isDigits_cons.2 ⟨hd, hall⟩⟩
  · rw [← hn.1, hz]
    simp
  · simp only [CharClass.contains, ClassItem.contains, List.any_cons, List.any_nil,
      Bool.or_false, Bool.or_eq_true, Bool.and_eq_true, decide_eq_true_eq] at hx
    exact hx.imp (fun h => Char.le_antisymm h.2 h.1) fun h => Char.le_antisymm h.2 h.1

/-- What the rule for binary literals takes. -/
theorem exists_of_split?_bitLiteral (h : bitLiteral.split? s = some (t, rest)) :
    ∃ digits, t = '0' :: 'b' :: digits ∧ isDigits bit digits = true := by
  obtain ⟨z, s₁, rfl, hz, h₁⟩ := Regex.exists_of_run_seq_single h
  obtain ⟨b, s₂, rfl, hb, h₂⟩ := Regex.exists_of_run_seq_single h₁
  obtain ⟨d, s₃, rfl, hd, h₃⟩ := Regex.exists_of_run_seq_single h₂
  obtain ⟨ds, r, -, hall, hn⟩ := Regex.exists_run_of_runMany h₃
  simp only [Option.some.injEq, Prod.mk.injEq] at hn
  rw [CharClass.contains_only, beq_iff_eq] at hz hb
  refine ⟨d :: ds, ?_, isDigits_cons.2 ⟨hd, hall⟩⟩
  rw [← hn.1, hz, hb]
  simp

theorem split?_hexLiteral_of_splitNumeral? {x : Split} (h : splitNumeral? s = some x) :
    hexLiteral.split? s = none := by
  cases hs : hexLiteral.split? s with
  | none => rfl
  | some taken =>
    obtain ⟨t, rest⟩ := taken
    obtain ⟨x, digits, rfl, hx, -⟩ := exists_of_split?_hexLiteral hs
    have happend := Regex.append_eq_of_split? hs
    subst happend
    rcases hx with rfl | rfl <;> cases h

theorem split?_bitLiteral_of_splitNumeral? {x : Split} (h : splitNumeral? s = some x) :
    bitLiteral.split? s = none := by
  cases hs : bitLiteral.split? s with
  | none => rfl
  | some taken =>
    obtain ⟨t, rest⟩ := taken
    obtain ⟨digits, rfl, -⟩ := exists_of_split?_bitLiteral hs
    have happend := Regex.append_eq_of_split? hs
    subst happend
    cases h

end Marked

end Clickhouse

end SqlDialects
