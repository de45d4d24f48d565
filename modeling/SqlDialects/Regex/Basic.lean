import SqlDialects.Regex.CharClass
import SqlDialects.Text.WordPart

/-!
# Regular expressions

The regular expressions that describe the words and blanks of a SQL dialect.
They are small: classes of characters, sequence, choice, option, anchors, and
repetition of one character at a time, which is all that tokens need.

## Matching by what comes next

A match is not any match but the preferred one: the first alternative of a
choice before the second, something rather than nothing in an option, and as many
characters as possible in a repetition, each given up only if what comes next
fails.  `Regex.run` says this directly: it is handed the rest of the work as a
function of the text before a place and the text after it, and calls it on each
place where the match may end, in order of preference, until one succeeds.  The
text before a place is kept in reverse, nearest character first, so that to take
a character is to move it from the head of one list to the head of the other,
and so that an anchor sees the neighbours of its place at the two heads.
-/

namespace SqlDialects

/-- A condition on a place of a text, by the characters on its two sides. -/
inductive Anchor where
  | textStart
  | textEnd
  | wordStart
  | wordEnd
  deriving DecidableEq, Repr

/-- Whether the character is there and is part of a word. -/
private def inWord (c : Option Char) : Bool := c.any Text.isWordPart

/-- Whether an anchor holds between two neighbours, of which the ends of the text lack one. -/
def Anchor.holds (before after : Option Char) : Anchor → Bool
  | .textStart => before.isNone
  | .textEnd => after.isNone
  | .wordStart => !inWord before && inWord after
  | .wordEnd => inWord before && !inWord after

/-- A regular expression. -/
inductive Regex where
  | empty
  | single (k : CharClass)
  | many (k : CharClass)
  | seq (first second : Regex)
  | either (first second : Regex)
  | optional (inner : Regex)
  | anchor (a : Anchor)
  deriving DecidableEq, Repr

namespace Regex

variable {ρ : Type}

/-- As many characters of the class as `next` allows, longest first. -/
def runMany (k : CharClass) (next : List Char → List Char → Option ρ) (before : List Char) :
    List Char → Option ρ
  | [] => next before []
  | c :: s =>
    if k.contains c then
      match runMany k next (c :: before) s with
      | some found => some found
      | none => next before (c :: s)
    else
      next before (c :: s)

/-- The first success of `next` on a place where a match may end that begins between `before`, in
reverse, and `s`, in order of preference. -/
def run : Regex → (next : List Char → List Char → Option ρ) → (before s : List Char) → Option ρ
  | .empty, next, before, s => next before s
  | .single k, next, before, s =>
    match s with
    | [] => none
    | c :: rest => if k.contains c then next (c :: before) rest else none
  | .many k, next, before, s => runMany k next before s
  | .seq first second, next, before, s => run first (run second next) before s
  | .either first second, next, before, s =>
    match run first next before s with
    | some found => some found
    | none => run second next before s
  | .optional inner, next, before, s =>
    match run inner next before s with
    | some found => some found
    | none => next before s
  | .anchor a, next, before, s => if a.holds before.head? s.head? then next before s else none

/-- The preferred match at the start of a text, and the rest. -/
def split? (r : Regex) (s : List Char) : Option (List Char × List Char) :=
  r.run (fun before rest => some (before.reverse, rest)) [] s

/-- One or more characters of a class. -/
def oneOrMore (k : CharClass) : Regex := .seq (.single k) (.many k)

/-- A fixed text. -/
def ofText (s : List Char) : Regex := s.foldr (fun c r => .seq (.single (.only c)) r) .empty

/-! ## Matches are prefixes

Wherever a match ends, what was taken and what is left make up the text that
there was. -/

theorem runMany_eq_some {k : CharClass} {next : List Char → List Char → Option ρ}
    {before s : List Char} {x : ρ} (h : runMany k next before s = some x) :
    ∃ t rest, s = t ++ rest ∧ next (t.reverse ++ before) rest = some x := by
  induction s generalizing before with
  | nil => exact ⟨[], [], rfl, h⟩
  | cons c s ih =>
    simp only [runMany] at h
    split at h
    · split at h
      · rename_i found hrun
        obtain rfl := Option.some.inj h
        obtain ⟨t, rest, rfl, hn⟩ := ih hrun
        exact ⟨c :: t, rest, rfl, by simpa using hn⟩
      · exact ⟨[], c :: s, rfl, h⟩
    · exact ⟨[], c :: s, rfl, h⟩

/-- Where an expression succeeds, what it took and what it left make up the text, and what it took
has joined the text before the place. -/
theorem run_eq_some {r : Regex} {next : List Char → List Char → Option ρ} {before s : List Char}
    {x : ρ} (h : run r next before s = some x) :
    ∃ t rest, s = t ++ rest ∧ next (t.reverse ++ before) rest = some x := by
  induction r generalizing next before s with
  | empty => exact ⟨[], s, rfl, h⟩
  | single k =>
    cases s with
    | nil => simp [run] at h
    | cons c s =>
      simp only [run] at h
      split at h
      · exact ⟨[c], s, rfl, h⟩
      · cases h
  | many k => exact runMany_eq_some h
  | seq first second ih₁ ih₂ =>
    obtain ⟨t, rest, rfl, h₁⟩ := ih₁ h
    obtain ⟨u, rest, rfl, h₂⟩ := ih₂ h₁
    exact ⟨t ++ u, rest, by simp, by simpa using h₂⟩
  | either first second ih₁ ih₂ =>
    simp only [run] at h
    split at h
    · rename_i hrun
      exact ih₁ (hrun.trans h)
    · exact ih₂ h
  | optional inner ih =>
    simp only [run] at h
    split at h
    · rename_i hrun
      exact ih (hrun.trans h)
    · exact ⟨[], s, rfl, h⟩
  | anchor a =>
    simp only [run] at h
    split at h
    · exact ⟨[], s, rfl, h⟩
    · cases h

/-- A match and what it leaves make up the text. -/
theorem append_eq_of_split? {r : Regex} {s t rest : List Char} (h : r.split? s = some (t, rest)) :
    t ++ rest = s := by
  obtain ⟨u, v, rfl, hv⟩ := run_eq_some h
  simp only [List.append_nil, List.reverse_reverse, Option.some.injEq, Prod.mk.injEq] at hv
  obtain ⟨rfl, rfl⟩ := hv
  rfl

end Regex

end SqlDialects
