import SqlDialects.Lexical.Rule
import SqlDialects.Text.Escaped

/-!
# From text to tokens

A lexer is an ordered list of lexical rules and a set of reserved words.  It cuts
a text into elements: at each point the first rule that reacts decides, and what
that rule takes is the next element.  Where no rule reacts, or the first to react
finds something that never closes, the cutting stops.

Three views are kept apart.  `Lexer.elements` is the cutting alone; the elements
and what is left over make up the text.  `placeTokens` walks over the elements,
says where each one lies, and drops trivia.  `Lexer.lex` puts the two together
and explains a text that was not cut to its end.
-/

namespace SqlDialects

/-- A stretch of text that one rule took. -/
structure Element where
  rule : LexicalRule
  text : List Char
  deriving DecidableEq, Repr

/-- Why a text could not be cut to its end. -/
inductive LexError.Cause where
  /-- The first rule to react found something that never closes. -/
  | unterminated (rule : String)
  /-- No rule reacted to this character and what follows it. -/
  | unrecognised (c : Char)
  deriving DecidableEq, Repr

/-- A text that is not made of tokens, and where it ceases to be. -/
structure LexError where
  cause : LexError.Cause
  span : Span
  deriving DecidableEq, Repr

/-- What is wrong, and where. -/
def LexError.message (e : LexError) : String :=
  match e.cause with
  | .unterminated rule =>
    "Unterminated " ++ rule.map (fun c => if c = '_' then ' ' else c) ++ " at " ++ e.span.describe
  | .unrecognised c =>
    "Unable to lex character " ++ Text.quotedChar c ++ " at " ++ e.span.describe

/-- Rules and reserved words. -/
structure Lexer where
  rules : List LexicalRule
  reserved : List String
  deriving DecidableEq, Repr

namespace Lexer

/-- Whether a word is reserved, in whatever case it is written. -/
def isReserved (l : Lexer) (word : String) : Bool := l.reserved.contains word.toUpper

/-- The escape character of string literals: that of the first rule for them that has one. -/
def stringEscape? (l : Lexer) : Option Char :=
  (l.rules.filter (·.kind == .stringLiteral)).findSome? LexicalRule.escape?

/-- The first rule that reacts to a text, and how. -/
def firstReaction? (rules : List LexicalRule) (s : List Char) :
    Option (LexicalRule × Lexical.Reaction) :=
  rules.findSome? fun rule => (rule.react s).map fun reaction => (rule, reaction)

/-- The first rule to react is one of the rules, and it reacts. -/
theorem of_firstReaction?_eq_some {rules : List LexicalRule} {s : List Char} {rule : LexicalRule}
    {reaction : Lexical.Reaction} (h : firstReaction? rules s = some (rule, reaction)) :
    rule ∈ rules ∧ rule.react s = some reaction := by
  obtain ⟨r, hr, hreact⟩ := List.exists_of_findSome?_eq_some h
  obtain ⟨reaction', hreact', heq⟩ := Option.map_eq_some_iff.1 hreact
  obtain ⟨rfl, rfl⟩ := Prod.mk.inj heq
  exact ⟨hr, hreact'⟩

/-- What the first rule to react takes is a first part of the text, and not empty. -/
theorem of_firstReaction?_eq_matched {rules : List LexicalRule} {s : List Char}
    {rule : LexicalRule} {text rest : List Char}
    (h : firstReaction? rules s = some (rule, .matched text rest)) :
    rule ∈ rules ∧ text ++ rest = s ∧ text ≠ [] := by
  obtain ⟨hr, hreact⟩ := of_firstReaction?_eq_some h
  exact ⟨hr, Lexical.Pattern.of_react_eq_matched hreact⟩

/-- Cuts a text into elements as far as the rules go: the elements, and what is left. -/
def elements (rules : List LexicalRule) (s : List Char) : List Element × List Char :=
  match _h : firstReaction? rules s with
  | some (rule, .matched text rest) =>
    let (later, left) := elements rules rest
    (⟨rule, text⟩ :: later, left)
  | _ => ([], s)
termination_by s.length
decreasing_by
  obtain ⟨-, rfl, hne⟩ := of_firstReaction?_eq_matched _h
  have := List.length_pos_iff.2 hne
  simp only [List.length_append]
  omega

/-- The kind of an element: words that are reserved are keywords. -/
def kindOf (l : Lexer) (e : Element) : TokenKind :=
  if e.rule.kind = .word ∧ l.isReserved (.ofList e.text) then .keyword else e.rule.kind

/-- The tokens among the elements that begin at a place. -/
def placeTokens (l : Lexer) (p : Place) : List Element → List Token
  | [] => []
  | e :: later =>
    let tokens := placeTokens l (p.after e.text) later
    if e.rule.kind.isTrivia then tokens
    else ⟨l.kindOf e, .ofList e.text, p.spanOf e.text⟩ :: tokens

/-- Why a text was not cut any further, if it was not. -/
def obstacle? (rules : List LexicalRule) : List Char → Option LexError.Cause
  | [] => none
  | c :: s =>
    match firstReaction? rules (c :: s) with
    | some (rule, .unterminated) => some (.unterminated rule.name)
    | _ => some (.unrecognised c)

/-- The tokens of a text, up to and with the one that ends every sequence. -/
def lex (l : Lexer) (text : String) : Except LexError (List Token) :=
  let (elements, left) := elements l.rules text.toList
  let finish := Place.first.after (elements.flatMap (·.text))
  match obstacle? l.rules left with
  | none => .ok (l.placeTokens .first elements ++ [.endOfFile finish.span])
  | some cause => .error ⟨cause, finish.span⟩

/-- The elements and what is left make up the text. -/
theorem flatMap_elements_append (rules : List LexicalRule) (s : List Char) :
    (elements rules s).1.flatMap (·.text) ++ (elements rules s).2 = s := by
  fun_induction elements rules s with
  | case1 s rule text rest h later left heq ih =>
    obtain ⟨-, rfl, -⟩ := of_firstReaction?_eq_matched h
    rw [heq] at ih
    simp [List.flatMap_cons, ih]
  | case2 => rfl

end Lexer

end SqlDialects
