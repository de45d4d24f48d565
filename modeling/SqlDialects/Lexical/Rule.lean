import SqlDialects.Lexical.Enclosed
import SqlDialects.Lexical.Numeral
import SqlDialects.Regex.Basic
import SqlDialects.Token

/-!
# Lexical rules

A dialect says how its tokens look by an ordered list of rules, each with a name,
a kind of token and a pattern.  Faced with a text a rule reacts in one of two
ways or not at all: it takes a first part of the text, or it finds that the text
opens something that never closes.  A part that a rule takes is never empty, so
whoever follows the rules gets on.
-/

namespace SqlDialects

namespace Lexical

/-- How a token looks. -/
inductive Pattern where
  /-- A fixed text. -/
  | text (template : String)
  /-- A regular expression, at the start of the text. -/
  | regex (r : Regex)
  /-- A numeric literal. -/
  | numeral
  /-- A block comment, in which comments nest. -/
  | comment
  /-- A literal between quotes. -/
  | quoted (opening closing : Char) (escape : Option Char)
  deriving DecidableEq, Repr

/-- What a rule makes of a text. -/
inductive Reaction where
  | matched (text rest : List Char)
  | unterminated
  deriving DecidableEq, Repr

/-- A first part taken from a text is a match if there is anything in it. -/
def Reaction.ofSplit? : Option Split → Option Reaction
  | none => none
  | some (text, rest) => if text.isEmpty then none else some (.matched text rest)

/-- A text taken off the front of another. -/
def splitText? (template s : List Char) : Option Split :=
  if template.isPrefixOf s then some (template, s.drop template.length) else none

/-- A block comment, from its opening mark on. -/
def reactComment : List Char → Option Reaction
  | '/' :: '*' :: s =>
    match splitOpenComment? 0 s with
    | none => some .unterminated
    | some (text, rest) => some (.matched ('/' :: '*' :: text) rest)
  | _ => none

/-- A quoted literal, from its opening quote on. -/
def reactQuoted (opening closing : Char) (escape : Option Char) : List Char → Option Reaction
  | [] => none
  | c :: s =>
    if c = opening then
      match splitQuotedBody? closing escape s with
      | none => some .unterminated
      | some (text, rest) => some (.matched (c :: text) rest)
    else
      none

/-- What a pattern makes of a text. -/
def Pattern.react : Pattern → List Char → Option Reaction
  | .text template, s => Reaction.ofSplit? (splitText? template.toList s)
  | .regex r, s => Reaction.ofSplit? (r.split? s)
  | .numeral, s => Reaction.ofSplit? (splitNumeral? s)
  | .comment, s => reactComment s
  | .quoted opening closing escape, s => reactQuoted opening closing escape s

theorem of_ofSplit?_eq_matched {split : Option Split} {text rest : List Char}
    (h : Reaction.ofSplit? split = some (.matched text rest)) :
    split = some (text, rest) ∧ text ≠ [] := by
  unfold Reaction.ofSplit? at h
  split at h
  · cases h
  · split at h
    · cases h
    · simp only [Option.some.injEq, Reaction.matched.injEq] at h
      obtain ⟨rfl, rfl⟩ := h
      simp_all

/-- A match is a first part of the text, what it leaves is the rest, and it is not empty. -/
theorem Pattern.of_react_eq_matched {p : Pattern} {s text rest : List Char}
    (h : p.react s = some (.matched text rest)) : text ++ rest = s ∧ text ≠ [] := by
  cases p with
  | text template =>
    obtain ⟨hs, hne⟩ := of_ofSplit?_eq_matched h
    unfold splitText? at hs
    split at hs
    · rename_i hp
      obtain ⟨u, rfl⟩ := List.isPrefixOf_iff_prefix.1 hp
      simp only [Option.some.injEq, Prod.mk.injEq] at hs
      obtain ⟨rfl, rfl⟩ := hs
      exact ⟨by simp, hne⟩
    · cases hs
  | regex r =>
    obtain ⟨hs, hne⟩ := of_ofSplit?_eq_matched h
    exact ⟨Regex.append_eq_of_split? hs, hne⟩
  | numeral =>
    obtain ⟨hs, hne⟩ := of_ofSplit?_eq_matched h
    exact ⟨append_of_splitNumeral? hs, hne⟩
  | comment =>
    simp only [react] at h
    unfold reactComment at h
    split at h
    · split at h
      · cases h
      · rename_i hs
        simp only [Option.some.injEq, Reaction.matched.injEq] at h
        obtain ⟨rfl, rfl⟩ := h
        exact ⟨by simp [append_of_splitOpenComment? hs], by simp⟩
    · cases h
  | quoted opening closing escape =>
    simp only [react] at h
    unfold reactQuoted at h
    split at h
    · cases h
    · split at h
      · split at h
        · cases h
        · rename_i hs
          simp only [Option.some.injEq, Reaction.matched.injEq] at h
          obtain ⟨rfl, rfl⟩ := h
          exact ⟨by simp [append_of_splitQuotedBody? hs], by simp⟩
      · cases h

end Lexical

/-- A lexical rule. -/
structure LexicalRule where
  name : String
  kind : TokenKind
  pattern : Lexical.Pattern
  deriving DecidableEq, Repr

namespace LexicalRule

/-- What a rule makes of a text. -/
def react (r : LexicalRule) (s : List Char) : Option Lexical.Reaction := r.pattern.react s

/-- The escape character of a rule for quoted literals, if it has one. -/
def escape? (r : LexicalRule) : Option Char :=
  match r.pattern with
  | .quoted _ _ escape => escape
  | _ => none

/-- The rule with an escape character, which only a rule for quoted literals can have. -/
def withEscape? (r : LexicalRule) (c : Char) : Option LexicalRule :=
  match r.pattern with
  | .quoted opening closing _ => some { r with pattern := .quoted opening closing (some c) }
  | _ => none

/-- The first part of a text that a rule takes. -/
def match? (r : LexicalRule) (s : List Char) : Option (List Char) :=
  match r.react s with
  | some (.matched text _) => some text
  | _ => none

end LexicalRule

end SqlDialects
