import SqlDialects.Lexer

/-!
# Texts that are cut into given lexemes

A lexeme is a token without its place.  What a parser makes of some tokens
depends on their lexemes alone, and so what a text means depends on the lexemes
that it is cut into, `Lexer.lexemes?`.

## Why what follows is part of the statement

Whether a text is a token depends on what comes after it: `ab` is no word before
`c`, `1` is no numeral before `x`, and `-` is no minus before `-`.  A statement
that a text is cut in some way can therefore be put together with others only if
it says before what.  `Cuts l F s ls` says that before any rest whose first
character `F` allows, the text `s` is cut into `ls`, and that the rest is then cut
as if it stood alone.  Two such statements compose when the first allows what the
second text begins with (`Cuts.append`).
-/

namespace SqlDialects

/-- A token without its place. -/
structure Lexeme where
  kind : TokenKind
  text : String
  deriving DecidableEq, Repr

/-- A token, its place apart. -/
def Token.lexeme (t : Token) : Lexeme := ⟨t.kind, t.text⟩

/-- The lexeme that ends every sequence. -/
def Lexeme.endOfFile : Lexeme := ⟨.endOfFile, ""⟩

namespace Lexer

variable (l : Lexer)

/-- The lexemes among some elements. -/
def lexemesOf : List Element → List Lexeme
  | [] => []
  | e :: later =>
    if e.rule.kind.isTrivia then lexemesOf later
    else ⟨l.kindOf e, .ofList e.text⟩ :: lexemesOf later

/-- The lexemes of a text, if it can be cut to its end. -/
def lexemes? (s : List Char) : Option (List Lexeme) :=
  if (elements l.rules s).2.isEmpty then some (l.lexemesOf (elements l.rules s).1) else none

/-! ## One element -/

theorem elements_of_matched {rules : List LexicalRule} {s text rest : List Char}
    {rule : LexicalRule} (h : firstReaction? rules s = some (rule, .matched text rest)) :
    elements rules s = (⟨rule, text⟩ :: (elements rules rest).1, (elements rules rest).2) := by
  rw [elements]
  split
  · rename_i heq
    rw [h] at heq
    cases heq
    rfl
  · rename_i hno
    exact absurd h (hno rule text rest)

theorem elements_nil (rules : List LexicalRule) : elements rules [] = ([], []) := by
  rw [elements]
  split
  · rename_i h
    obtain ⟨-, happend, hne⟩ := of_firstReaction?_eq_matched h
    exact absurd (List.append_eq_nil_iff.1 happend).1 hne
  · rfl

@[simp] theorem lexemes?_nil : l.lexemes? [] = some [] := by
  rw [lexemes?, elements_nil]
  rfl

/-- The lexemes that an element of a kind leaves. -/
def lexemeOf (kind : TokenKind) (text : List Char) : List Lexeme :=
  if kind.isTrivia then [] else [⟨kind, .ofList text⟩]

variable {l}

theorem isTrivia_kindOf (e : Element) : (l.kindOf e).isTrivia = e.rule.kind.isTrivia := by
  unfold kindOf
  split
  · rename_i h
    rw [h.1]
    rfl
  · rfl

theorem kindOf_of_ne_word {e : Element} (h : e.rule.kind ≠ .word) : l.kindOf e = e.rule.kind :=
  if_neg fun hreserved => h hreserved.1

/-- What the first rule to react takes comes first, and the rest is cut on its own. -/
theorem lexemes?_of_matched {s text rest : List Char} {rule : LexicalRule}
    (h : firstReaction? l.rules s = some (rule, .matched text rest)) :
    l.lexemes? s = (l.lexemes? rest).map (lexemeOf (l.kindOf ⟨rule, text⟩) text ++ ·) := by
  unfold lexemes?
  rw [elements_of_matched h]
  show (if (elements l.rules rest).2.isEmpty then _ else _) = _
  by_cases hleft : (elements l.rules rest).2.isEmpty = true
  · rw [if_pos hleft, if_pos hleft]
    unfold lexemeOf
    rw [isTrivia_kindOf, lexemesOf]
    by_cases htrivia : rule.kind.isTrivia = true
    · simp [htrivia]
    · simp [htrivia]
  · rw [if_neg hleft, if_neg hleft]
    rfl

/-! ## From lexemes to tokens and back -/

theorem map_lexeme_placeTokens (p : Place) (es : List Element) :
    (l.placeTokens p es).map Token.lexeme = l.lexemesOf es := by
  induction es generalizing p with
  | nil => rfl
  | cons e later ih =>
    rw [placeTokens, lexemesOf]
    by_cases htrivia : e.rule.kind.isTrivia = true
    · simp only [htrivia, if_true]
      exact ih _
    · simp only [htrivia]
      rw [← ih (p.after e.text)]
      rfl

theorem obstacle?_eq_none {rules : List LexicalRule} {s : List Char} :
    obstacle? rules s = none ↔ s = [] := by
  cases s with
  | nil => simp [obstacle?]
  | cons c s =>
    rw [obstacle?]
    split <;> simp

/-- A text has lexemes when it has tokens, and they are the lexemes of the tokens before the
end. -/
theorem lexemes?_eq_some {text : String} {ls : List Lexeme} :
    l.lexemes? text.toList = some ls ↔
      ∃ tokens, l.lex text = .ok tokens ∧ tokens.map Token.lexeme = ls ++ [.endOfFile] := by
  unfold lexemes? lex
  rcases hcut : elements l.rules text.toList with ⟨es, left⟩
  by_cases hleft : left = []
  · subst hleft
    have hend : obstacle? l.rules [] = none := rfl
    simp only [List.isEmpty_nil, if_true, hend, Option.some.injEq, Except.ok.injEq]
    constructor
    · rintro rfl
      refine ⟨_, rfl, ?_⟩
      rw [List.map_append, map_lexeme_placeTokens]
      rfl
    · rintro ⟨tokens, rfl, h⟩
      rw [List.map_append, map_lexeme_placeTokens] at h
      exact List.append_cancel_right h
  · have hsome : obstacle? l.rules left ≠ none := fun h => hleft (obstacle?_eq_none.1 h)
    have hempty : left.isEmpty = false := by simpa using hleft
    simp only [hempty, Bool.false_eq_true, if_false, reduceCtorEq, false_iff]
    rintro ⟨tokens, h, -⟩
    cases hc : obstacle? l.rules left with
    | none => exact hsome hc
    | some cause =>
      rw [hc] at h
      cases h

/-! ## Cutting before what follows -/

/-- Before a rest that begins as `F` allows, the first rule to react takes `s` and nothing else, and
makes it a token of the given kind. -/
def Takes (l : Lexer) (F : Option Char → Prop) (s : List Char) (kind : TokenKind) : Prop :=
  ∀ rest, F rest.head? → ∃ rule,
    firstReaction? l.rules (s ++ rest) = some (rule, .matched s rest) ∧ l.kindOf ⟨rule, s⟩ = kind

/-- Before a rest that begins as `F` allows, a text is cut into lexemes, and the rest as if it
stood alone. -/
def Cuts (l : Lexer) (F : Option Char → Prop) (s : List Char) (ls : List Lexeme) : Prop :=
  ∀ rest, F rest.head? → l.lexemes? (s ++ rest) = (l.lexemes? rest).map (ls ++ ·)

variable {F G : Option Char → Prop} {s t : List Char} {ls ms : List Lexeme}

theorem Takes.cuts {kind : TokenKind} (h : l.Takes F s kind) :
    l.Cuts F s (lexemeOf kind s) := by
  intro rest hrest
  obtain ⟨rule, hfirst, rfl⟩ := h rest hrest
  exact lexemes?_of_matched hfirst

namespace Cuts

theorem mono (h : l.Cuts F s ls) (hGF : ∀ o, G o → F o) : l.Cuts G s ls :=
  fun rest hrest => h rest (hGF _ hrest)

theorem nil (l : Lexer) (F : Option Char → Prop) : l.Cuts F [] [] := by
  intro rest _
  cases h : l.lexemes? rest <;> simp [h]

/-- **Cuts compose**, if the first allows what the second text begins with, or what follows it
where it is empty. -/
theorem append (hs : l.Cuts F s ls) (ht : l.Cuts G t ms)
    (hF : ∀ o, G o → F (t.head?.or o)) : l.Cuts G (s ++ t) (ls ++ ms) := by
  intro rest hrest
  have hfirst : F (t ++ rest).head? := by
    rw [List.head?_append]
    exact hF _ hrest
  rw [List.append_assoc, hs (t ++ rest) hfirst, ht rest hrest, Option.map_map]
  congr 1
  funext later
  exact (List.append_assoc ls ms later).symm

/-- What a text is cut into is settled, whatever it may stand before. -/
theorem lexemes?_eq (h : l.Cuts F s ls) (hend : F none) : l.lexemes? s = some ls := by
  have hnil := h [] hend
  rw [List.append_nil, lexemes?_nil] at hnil
  rw [hnil]
  simp

end Cuts

end Lexer

end SqlDialects
