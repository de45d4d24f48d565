import SqlDialects.Proofs.Dialect.Assembled
import SqlDialects.Proofs.Lexing.Enclosed
import SqlDialects.Proofs.Lexing.Token

/-!
# The first rule takes most

The first rule to react decides, and no rule is asked whether it would take more.  So the
order of the rules has to see to it that none ever would.  Which rule is the first depends
on the text; but whichever it is, all that could do better stand behind it.  So it is enough
to compare each rule with those behind it: where both react, the one in front takes at
least as much (`LexicalRule.Outreaches`).

Most pairs of rules never react to one text, because no character begins a match of both,
and to see this it is enough to try the characters that one of the two can begin with, if
these are few.  In most of the other pairs the rule behind is for a fixed text, no longer
than the shortest match of the rule in front.  Both can be computed (`Pattern.precedes`).
What remains are blanks before words, two classes of characters without end, and the
literals of ClickHouse that begin with the same zero as numerals do.
-/

namespace SqlDialects

namespace Lexical

/-- The most that another rule can take without taking more than a reaction does.  What is found
unterminated counts as one character. -/
def Reaction.reach : Reaction → Nat
  | .matched text _ => text.length
  | .unterminated => 1

namespace Pattern

/-- Every reaction of a pattern reaches at least as far. -/
def least : Pattern → Nat
  | .text template => template.toList.length
  | _ => 1

/-- Whether a pattern is a fixed text of at most `k` characters. -/
def isTextWithin (k : Nat) : Pattern → Bool
  | .text template => decide (template.toList.length ≤ k)
  | _ => false

/-- Whether it can be seen from two patterns that the first outreaches the second. -/
def precedes (p q : Pattern) : Bool := p.apart q || q.isTextWithin p.least

variable {p : Pattern} {s : List Char} {reaction : Reaction}

theorem least_le_reach (h : p.react s = some reaction) : p.least ≤ reaction.reach := by
  cases p with
  | text template =>
    obtain ⟨rest, rfl⟩ := eq_of_react_text h
    exact Nat.le_refl _
  | _ =>
    cases reaction with
    | matched text rest => exact List.length_pos_iff.2 (of_react_eq_matched h).2
    | unterminated => exact Nat.le_refl 1

end Pattern

end Lexical

/-! ## Rules in front of others -/

namespace LexicalRule

variable {r r' : LexicalRule}

/-- Where both of two rules react, the second takes something, and no more than the first. -/
def Outreaches (r r' : LexicalRule) : Prop :=
  ∀ s x y, r.react s = some x → r'.react s = some y →
    ∃ text rest, y = .matched text rest ∧ text.length ≤ x.reach

theorem Exclude.outreaches (h : r.Exclude r') : r.Outreaches r' := by
  intro s x y hx hy
  rw [h.react_eq_none hy] at hx
  cases hx

theorem outreaches_of_precedes (h : r.pattern.precedes r'.pattern = true) : r.Outreaches r' := by
  rcases Bool.or_eq_true _ _ ▸ h with hapart | htext
  · exact (exclude_of_apart hapart).outreaches
  · intro s x y hx hy
    have hleast := Lexical.Pattern.least_le_reach hx
    obtain ⟨name, kind, pattern⟩ := r'
    cases pattern with
    | text template =>
      obtain ⟨rest, rfl⟩ := Lexical.Pattern.eq_of_react_text hy
      exact ⟨_, rest, rfl, Nat.le_trans (of_decide_eq_true htext) hleast⟩
    | _ => cases htext

end LexicalRule

namespace Lexer

variable {rules : List LexicalRule} {s : List Char} {rule : LexicalRule}
  {reaction : Lexical.Reaction}

/-- **Where each rule outreaches those behind it, the first to react outreaches all.**  Those before
it do not react. -/
theorem ReactsFirst.reach_of_pairwise (hrules : rules.Pairwise LexicalRule.Outreaches)
    (h : ReactsFirst rules s rule reaction) {r : LexicalRule} (hr : r ∈ rules)
    {y : Lexical.Reaction} (hy : r.react s = some y) :
    y = reaction ∨ ∃ text rest, y = .matched text rest ∧ text.length ≤ reaction.reach := by
  obtain ⟨before, behind, rfl, hbefore, hrule⟩ := h
  rcases List.mem_append.1 hr with hr | hr
  · rw [hbefore r hr] at hy
    cases hy
  rcases List.mem_cons.1 hr with rfl | hr
  · rw [hrule] at hy
    exact .inl (Option.some.inj hy).symm
  · have hbehind := (List.pairwise_cons.1 (List.pairwise_append.1 hrules).2.1).1
    exact .inr (hbehind r hr s reaction y hrule hy)

end Lexer

/-! ## The rules of the built-in dialects -/

namespace DialectName

/-- The pairs of rules for which the texts have to be looked at beyond their first character. -/
def closePairs : List (LexicalRule × LexicalRule) :=
  [(blankRule, wordRule), (Clickhouse.hexRule, Clickhouse.bitRule),
   (Clickhouse.hexRule, numeralRule), (Clickhouse.bitRule, numeralRule)]

theorem exclude_blankRule_wordRule : blankRule.Exclude wordRule := by
  intro s
  cases s with
  | nil => exact .inl (Lexical.Pattern.react_nil _)
  | cons c s =>
    cases hword : wordRule.pattern.opens c with
    | false => exact .inr (LexicalRule.react_of_opens_eq_false hword s)
    | true => exact .inl (react_blankRule_of_wordStart hword s)

theorem exclude_hexRule_bitRule : Clickhouse.hexRule.Exclude Clickhouse.bitRule := by
  intro s
  show Lexical.Reaction.ofSplit? (Clickhouse.hexLiteral.split? s) = none ∨
    Lexical.Reaction.ofSplit? (Clickhouse.bitLiteral.split? s) = none
  cases hhex : Clickhouse.hexLiteral.split? s with
  | none => exact .inl rfl
  | some hex =>
    cases hbit : Clickhouse.bitLiteral.split? s with
    | none => exact .inr rfl
    | some bits =>
      -- The second character would have to be two.
      obtain ⟨x, _, ht, hx, -⟩ := Clickhouse.exists_of_split?_hexLiteral hhex
      obtain ⟨_, hu, -⟩ := Clickhouse.exists_of_split?_bitLiteral hbit
      have hparts := (Regex.append_eq_of_split? hhex).trans (Regex.append_eq_of_split? hbit).symm
      rw [ht, hu] at hparts
      obtain rfl : x = 'b' := (List.cons.inj (List.cons.inj hparts).2).1
      exact absurd hx (by decide)

theorem exclude_of_mem_closePairs : ∀ e ∈ closePairs, e.1.Exclude e.2 := by
  simp only [closePairs, List.forall_mem_cons]
  exact ⟨exclude_blankRule_wordRule, exclude_hexRule_bitRule,
    exclude_numeralRule Clickhouse.split?_hexLiteral_of_splitNumeral?,
    exclude_numeralRule Clickhouse.split?_bitLiteral_of_splitNumeral?, List.forall_mem_nil _⟩

theorem pairwise_precedes (n : DialectName) : n.rules.Pairwise fun r r' =>
    r.pattern.precedes r'.pattern = true ∨ (r, r') ∈ closePairs := by
  cases n <;> decide +kernel

/-- **Each rule of a built-in dialect outreaches those behind it.** -/
theorem pairwise_outreaches (n : DialectName) : n.rules.Pairwise LexicalRule.Outreaches :=
  n.pairwise_precedes.imp fun h =>
    h.elim LexicalRule.outreaches_of_precedes fun h =>
      (exclude_of_mem_closePairs _ h).outreaches

end DialectName

/-- **The first rule to react takes most**, in each built-in dialect and whatever the text.  Where
it takes something, no rule takes more and none finds anything unterminated; and where it finds
something unterminated, no rule takes more than one character. -/
theorem first_match_is_longest (n : DialectName) (config? : Option Setting) :
    ∃ l, (Dialect.builtin n config?).lexer? = some l ∧ ∀ s,
      (∀ rule p rest, Lexer.firstReaction? l.rules s = some (rule, .matched p rest) →
        ∀ r ∈ l.rules, r.react s ≠ some .unterminated ∧
          ∀ q, r.match? s = some q → q.length ≤ p.length) ∧
      (∀ rule, Lexer.firstReaction? l.rules s = some (rule, .unterminated) →
        ∀ r ∈ l.rules, ∀ q, r.match? s = some q → q.length ≤ 1) := by
  refine ⟨n.lexer, (n.makes_builtin config?).lexer?, fun s => ?_⟩
  have hreach : ∀ {rule reaction}, Lexer.firstReaction? n.rules s = some (rule, reaction) →
      ∀ r ∈ n.rules, ∀ y, r.react s = some y →
        y = reaction ∨ ∃ text rest, y = .matched text rest ∧ text.length ≤ reaction.reach :=
    fun h _ hr _ hy =>
      (Lexer.firstReaction?_eq_some_iff.1 h).reach_of_pairwise n.pairwise_outreaches hr hy
  refine ⟨fun rule p rest hfirst r hr => ⟨fun hopen => ?_, fun q hq => ?_⟩,
    fun rule hfirst r hr q hq => ?_⟩
  · rcases hreach hfirst r hr _ hopen with h | ⟨_, _, h, -⟩ <;> cases h
  · obtain ⟨_, hq⟩ := LexicalRule.match?_eq_some_iff.1 hq
    rcases hreach hfirst r hr _ hq with h | ⟨_, _, h, hle⟩ <;> cases h
    · exact Nat.le_refl _
    · exact hle
  · obtain ⟨_, hq⟩ := LexicalRule.match?_eq_some_iff.1 hq
    rcases hreach hfirst r hr _ hq with h | ⟨_, _, h, hle⟩ <;> cases h
    exact hle

/-- A hexadecimal literal is taken whole though numerals begin with a zero, and a comment that does
not end leaves at most its slash to another rule. -/
theorem first_match_is_longest_zero_and_slash :
    ∃ l, (Dialect.builtin .clickhouse none).lexer? = some l ∧
      (∀ r ∈ l.rules, ∀ q, r.match? "0x1F".toList = some q → q.length ≤ 4) ∧
      (∃ r ∈ l.rules, r.match? "/* 1".toList = some ['/']) ∧
      ∀ r ∈ l.rules, ∀ q, r.match? "/* 1".toList = some q → q.length ≤ 1 := by
  obtain ⟨l, hl, hlongest⟩ := first_match_is_longest .clickhouse none
  obtain rfl : DialectName.clickhouse.lexer = l :=
    Option.some.inj (((DialectName.makes_builtin .clickhouse none).lexer?).symm.trans hl)
  refine ⟨_, hl, fun r hr => ?_, ?_, (hlongest _).2 ⟨"block_comment", .blockComment, .comment⟩ ?_⟩
  · exact ((hlongest _).1 Clickhouse.hexRule "0x1F".toList [] (by decide +kernel) r hr).2
  · exact ⟨⟨"divide", .divide, .text "/"⟩, by decide +kernel, by decide +kernel⟩
  · decide +kernel

end SqlDialects
