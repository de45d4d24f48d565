import SqlDialects.Lexer

/-!
# Rules that pass a text over

Which rule decides depends on all the rules before it, and each of them would have
to be followed through its pattern to see that it does not react.  One look at the
first character settles it nearly always.  `Pattern.opens` is that look: a pattern
that does not open with the first character of a text passes the text over
(`react_of_opens_eq_false`).  The converse does not hold and is not needed.

Most patterns open with a few characters only, and then one more look at the
pattern settles it for all texts: `Pattern.opensOnly` tries these characters, so
that what can be computed of them holds of any that the pattern opens with.
-/

namespace SqlDialects

/-- Whether a match of an expression may begin with `c`.  An expression that may match nothing is
given the benefit of the doubt. -/
def Regex.opens (c : Char) : Regex → Bool
  | .single k => k.contains c
  | .seq first _ => first.opens c
  | .either first second => first.opens c || second.opens c
  | _ => true

theorem Regex.run_of_opens_eq_false {ρ : Type} {c : Char} {r : Regex} (h : r.opens c = false)
    (next : List Char → List Char → Option ρ) (before s : List Char) :
    r.run next before (c :: s) = none := by
  induction r generalizing next with
  | single k =>
    show (if k.contains c then _ else _) = _
    rw [opens] at h
    rw [h]
    rfl
  | seq first second ih _ => exact ih h _
  | either first second ih₁ ih₂ =>
    rw [opens, Bool.or_eq_false_iff] at h
    rw [run, ih₁ h.1 next]
    exact ih₂ h.2 next
  | empty | many | optional | anchor => cases h

namespace Lexical.Pattern

/-- Whether a pattern may react to a text that begins with `c`. -/
def opens (c : Char) : Pattern → Bool
  | .text template => template.toList.head?.all (· == c)
  | .regex r => r.opens c
  | .numeral => c == '.' || c.isDigit
  | .comment => c == '/'
  | .quoted opening _ _ => c == opening

theorem react_of_opens_eq_false {c : Char} {p : Pattern} (h : p.opens c = false) (s : List Char) :
    p.react (c :: s) = none := by
  cases p with
  | text template =>
    show Reaction.ofSplit? (splitText? template.toList (c :: s)) = none
    rw [opens] at h
    unfold splitText?
    cases ht : template.toList with
    | nil =>
      rw [ht] at h
      cases h
    | cons d t =>
      rw [ht] at h
      rw [List.isPrefixOf, show (d == c) = false from h]
      rfl
  | regex r =>
    show Reaction.ofSplit? (r.split? (c :: s)) = none
    unfold Regex.split?
    rw [Regex.run_of_opens_eq_false h]
    rfl
  | numeral =>
    rw [opens, Bool.or_eq_false_iff, beq_eq_false_iff_ne] at h
    show Reaction.ofSplit? (splitNumeral? (c :: s)) = none
    have hmantissa : splitMantissa? (c :: s) = none := by
      rw [splitMantissa?, if_neg h.1, if_neg (by simp [h.2])]
    rw [splitNumeral?, hmantissa]
    rfl
  | comment =>
    show reactComment (c :: s) = none
    rw [opens, beq_eq_false_iff_ne] at h
    unfold reactComment
    split
    · rename_i heq
      exact absurd (List.cons.inj heq).1 h
    · rfl
  | quoted opening closing escape =>
    rw [opens, beq_eq_false_iff_ne] at h
    show reactQuoted opening closing escape (c :: s) = none
    rw [reactQuoted, if_neg h]

end Lexical.Pattern

/-! ## All that a match begins with

Where these characters are too many to be tried, `opensOnly` gives up. -/

/-- Whether an entry of a class covers one character only, and that has a property. -/
def ClassItem.coversOnly (p : Char → Bool) : ClassItem → Bool
  | .range first last => first == last && p first
  | _ => false

/-- Whether a class lists its characters, and all of them have a property. -/
def CharClass.listsOnly (p : Char → Bool) : CharClass → Bool
  | .anyOf items => items.all (·.coversOnly p)
  | _ => false

/-- Whether all characters that a match of an expression may begin with have a property. -/
def Regex.opensOnly (p : Char → Bool) : Regex → Bool
  | .single k => k.listsOnly p
  | .seq first _ => first.opensOnly p
  | .either first second => first.opensOnly p && second.opensOnly p
  | _ => false

section Opening

variable {p : Char → Bool} {c : Char}

theorem ClassItem.of_coversOnly {item : ClassItem} (h : item.coversOnly p = true)
    (hc : item.contains c = true) : p c = true := by
  cases item with
  | range first last =>
    rw [coversOnly, Bool.and_eq_true, beq_iff_eq] at h
    obtain ⟨rfl, hp⟩ := h
    simp only [contains, Bool.and_eq_true, decide_eq_true_eq] at hc
    exact Char.le_antisymm hc.2 hc.1 ▸ hp
  | _ => cases h

theorem CharClass.of_listsOnly {k : CharClass} (h : k.listsOnly p = true)
    (hc : k.contains c = true) : p c = true := by
  cases k with
  | anyOf items =>
    obtain ⟨item, hitem, hcover⟩ := List.any_eq_true.1 hc
    exact ClassItem.of_coversOnly (List.all_eq_true.1 h item hitem) hcover
  | _ => cases h

theorem Regex.of_opensOnly {r : Regex} (h : r.opensOnly p = true) (hc : r.opens c = true) :
    p c = true := by
  induction r with
  | single k => exact CharClass.of_listsOnly h hc
  | seq first second ih _ => exact ih h hc
  | either first second ih₁ ih₂ =>
    rw [opensOnly, Bool.and_eq_true] at h
    rw [opens, Bool.or_eq_true] at hc
    exact hc.elim (ih₁ h.1) (ih₂ h.2)
  | _ => cases h

end Opening

/-- What holds of the ten digits, one by one, holds of any. -/
theorem Text.forall_isDigit {P : Char → Prop} (h : ∀ v ∈ List.range' 48 10, P (Char.ofNat v))
    {c : Char} (hc : c.isDigit = true) : P c := by
  simp only [Char.isDigit, Bool.and_eq_true, decide_eq_true_eq, ge_iff_le,
    UInt32.le_iff_toNat_le] at hc
  have hmem : c.toNat ∈ List.range' 48 10 := by
    rw [List.mem_range'_1]
    exact ⟨hc.1, Nat.lt_succ_of_le hc.2⟩
  have hP := h c.toNat hmem
  rwa [Char.ofNat_toNat] at hP

theorem Lexical.Reaction.exists_of_ofSplit? {split : Option Split} {reaction : Reaction}
    (h : ofSplit? split = some reaction) : ∃ text rest, reaction = .matched text rest := by
  unfold ofSplit? at h
  split at h
  · cases h
  · split at h
    · cases h
    · exact ⟨_, _, (Option.some.inj h).symm⟩

namespace Lexical.Pattern

/-- What a fixed text takes is that text. -/
theorem eq_of_react_text {template : String} {s : List Char} {reaction : Reaction}
    (h : (Pattern.text template).react s = some reaction) :
    ∃ rest, reaction = .matched template.toList rest := by
  obtain ⟨text, rest, rfl⟩ := Reaction.exists_of_ofSplit? h
  have hsplit := (of_ofSplit?_eq_matched h).1
  unfold splitText? at hsplit
  split at hsplit
  · cases hsplit
    exact ⟨_, rfl⟩
  · cases hsplit

/-- Whether all characters that a pattern may open with have a property. -/
def opensOnly (p : Char → Bool) : Pattern → Bool
  | .text template => template.toList.head?.any p
  | .regex r => r.opensOnly p
  | .numeral => p '.' && (List.range' 48 10).all fun v => p (Char.ofNat v)
  | .comment => p '/'
  | .quoted opening _ _ => p opening

theorem of_opensOnly {p : Pattern} {f : Char → Bool} {c : Char} (h : p.opensOnly f = true)
    (hc : p.opens c = true) : f c = true := by
  cases p with
  | text template =>
    rw [opensOnly] at h
    rw [opens] at hc
    cases ht : template.toList with
    | nil =>
      rw [ht] at h
      cases h
    | cons d t =>
      rw [ht] at h hc
      obtain rfl : d = c := beq_iff_eq.1 hc
      exact h
  | regex r => exact Regex.of_opensOnly h hc
  | numeral =>
    simp only [opensOnly, Bool.and_eq_true, List.all_eq_true] at h
    rw [opens, Bool.or_eq_true, beq_iff_eq] at hc
    rcases hc with rfl | hc
    · exact h.1
    · exact Text.forall_isDigit (P := fun c => f c = true) h.2 hc
  | comment | quoted =>
    obtain rfl := beq_iff_eq.1 hc
    exact h

/-- Whether two patterns open with different characters. -/
def apart (p q : Pattern) : Bool :=
  p.opensOnly (fun c => !q.opens c) || q.opensOnly (fun c => !p.opens c)

/-- A pattern passes over what none of its first characters is. -/
theorem react_of_opensOnly {p : Pattern} {f : Char → Bool} {c : Char} (h : p.opensOnly f = true)
    (hc : f c = false) (s : List Char) : p.react (c :: s) = none := by
  refine react_of_opens_eq_false ?_ s
  cases hopens : p.opens c with
  | false => rfl
  | true =>
    rw [of_opensOnly h hopens] at hc
    cases hc

/-- No pattern reacts where there is no text. -/
theorem react_nil (p : Pattern) : p.react [] = none := by
  refine Option.eq_none_iff_forall_ne_some.2 fun reaction h => ?_
  cases reaction with
  | matched text rest =>
    obtain ⟨hparts, hne⟩ := of_react_eq_matched h
    exact hne (List.append_eq_nil_iff.1 hparts).1
  | unterminated =>
    cases p with
    | text | regex =>
      obtain ⟨_, _, ⟨⟩⟩ := Reaction.exists_of_ofSplit? h
    | numeral | comment | quoted => cases h

/-- Patterns that open with different characters never react to one text. -/
theorem react_eq_none_of_apart {p q : Pattern} (h : p.apart q = true) (s : List Char) :
    p.react s = none ∨ q.react s = none := by
  cases s with
  | nil => exact .inl p.react_nil
  | cons c s =>
    rcases Bool.or_eq_true _ _ ▸ h with h | h
    · cases hq : q.opens c with
      | false => exact .inr (react_of_opens_eq_false hq s)
      | true => exact .inl (react_of_opensOnly h (by rw [hq]; rfl) s)
    · cases hp : p.opens c with
      | false => exact .inl (react_of_opens_eq_false hp s)
      | true => exact .inr (react_of_opensOnly h (by rw [hp]; rfl) s)

end Lexical.Pattern

/-! ## Rules -/

namespace LexicalRule

/-- A rule does not react to what its pattern does not open with. -/
theorem react_of_opens_eq_false {rule : LexicalRule} {c : Char}
    (h : rule.pattern.opens c = false) (s : List Char) : rule.react (c :: s) = none :=
  Lexical.Pattern.react_of_opens_eq_false h s

/-- Two rules never react to one text. -/
def Exclude (r r' : LexicalRule) : Prop := ∀ s, r.react s = none ∨ r'.react s = none

variable {r r' : LexicalRule}

theorem exclude_of_apart (h : r.pattern.apart r'.pattern = true) : r.Exclude r' :=
  Lexical.Pattern.react_eq_none_of_apart h

/-- Where one of two rules reacts that exclude each other, the other does not. -/
theorem Exclude.react_eq_none (h : r.Exclude r') {s : List Char} {x : Lexical.Reaction}
    (hr' : r'.react s = some x) : r.react s = none := by
  refine (h s).resolve_right fun hnone => ?_
  rw [hr'] at hnone
  cases hnone

end LexicalRule

namespace Lexer

/-- The rules before the first of a name. -/
def rulesBefore (rules : List LexicalRule) (name : String) : List LexicalRule :=
  rules.takeWhile fun r => r.name != name

/-- **A rule decides if no rule before it reacts.** -/
theorem firstReaction?_of_passed {rules : List LexicalRule} {rule : LexicalRule} {s : List Char}
    {reaction : Lexical.Reaction} (hfind : rules.find? (fun r => r.name == rule.name) = some rule)
    (hbefore : ∀ r ∈ rulesBefore rules rule.name, r.react s = none)
    (h : rule.react s = some reaction) : firstReaction? rules s = some (rule, reaction) := by
  induction rules with
  | nil => cases hfind
  | cons r rules ih =>
    unfold firstReaction?
    rw [List.findSome?_cons]
    rw [List.find?_cons] at hfind
    by_cases hname : (r.name == rule.name) = true
    · rw [hname] at hfind
      obtain rfl := Option.some.inj hfind
      rw [h]
      rfl
    · rw [Bool.not_eq_true] at hname
      rw [hname] at hfind
      have hother : (r.name != rule.name) = true := by rw [bne, hname, Bool.not_false]
      have hcons : rulesBefore (r :: rules) rule.name = r :: rulesBefore rules rule.name :=
        List.takeWhile_cons_of_pos hother
      rw [hcons] at hbefore
      rw [hbefore r List.mem_cons_self]
      exact ih hfind fun r' hr' => hbefore r' (List.mem_cons_of_mem r hr')

end Lexer

end SqlDialects
