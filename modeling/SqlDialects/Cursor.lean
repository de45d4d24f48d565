import SqlDialects.Note
import SqlDialects.ParseError

/-!
# Reading tokens

A `Cursor` stands on a token and knows those ahead.  A sequence of tokens ends
with the token for its end, and no cursor moves past one of those, so there is
always a token to stand on.

A `Parser` is a computation that moves a cursor.  Where it stops with an error
the cursor stays where it was then.

## How repetition ends

Lists, chains of operators and nested expressions go on for as long as there are
tokens for them.  None of them counts its rounds.  Instead `Parser.many` goes on
only while each round leaves fewer tokens ahead, and `Parser.descend` starts a
nested parse only where fewer tokens are ahead than where the outer one began;
otherwise they stop with the fault `stalled`.  Every form of the grammar takes a
token before it repeats itself, so that never happens; but the definitions do not
depend on it.
-/

namespace SqlDialects

/-- A place among tokens, and the notes made on the way there. -/
structure Cursor where
  current : Token
  ahead : List Token
  notes : List Note := []

namespace Cursor

/-- The tokens with one for their end, if that is missing. -/
def complete (tokens : List Token) : List Token :=
  match tokens.getLast? with
  | none => [.endOfFile {}]
  | some last => if last.kind = .endOfFile then tokens else tokens ++ [.endOfFile last.span]

/-- The cursor on the first of some tokens. -/
def ofTokens (tokens : List Token) : Cursor :=
  match complete tokens with
  | [] => ⟨.endOfFile {}, [], []⟩
  | first :: rest => ⟨first, rest, []⟩

/-- How many tokens are ahead. -/
def remaining (c : Cursor) : Nat := c.ahead.length

/-- The token so many places ahead, or the last token. -/
def peek (c : Cursor) (n : Nat) : Token := (c.ahead.take n).getLastD c.current

/-- The cursor on the next token, unless it stands on an end. -/
def advance (c : Cursor) : Cursor :=
  if c.current.kind = .endOfFile then c
  else
    match c.ahead with
    | [] => c
    | next :: rest => { c with current := next, ahead := rest }

theorem remaining_advance_le (c : Cursor) : c.advance.remaining ≤ c.remaining := by
  unfold advance remaining
  split
  · exact Nat.le_refl _
  · split
    · exact Nat.le_refl _
    · simp_all

theorem complete_ne_nil (tokens : List Token) : complete tokens ≠ [] := by
  unfold complete
  split
  · simp
  · split
    · intro h
      simp_all
    · simp

end Cursor

/-- Why a parser stops. -/
inductive ParseFailure where
  /-- The tokens are rejected. -/
  | rejected (e : ParseError)
  /-- The tokens are not what a lexer gives. -/
  | fault (f : Fault)

/-- A computation that moves a cursor. -/
abbrev Parser := EStateM ParseFailure Cursor

/-- What a parser comes to. -/
abbrev Parsed := EStateM.Result ParseFailure Cursor

namespace Parser

variable {α : Type}

/-! ## Looking and moving -/

/-- The token under the cursor. -/
def peek : Parser Token := do return (← get).current

/-- The token so many places ahead. -/
def peekAhead (n : Nat) : Parser Token := do return (← get).peek n

/-- The token under the cursor, which moves on. -/
def advance : Parser Token := modifyGet fun c => (c.current, c.advance)

/-- Makes a note. -/
def note (n : Note) : Parser Unit := modify fun c => { c with notes := c.notes ++ [n] }

/-- Whether the cursor is on a token of a kind. -/
def check (kind : TokenKind) : Parser Bool := do return (← peek).kind == kind

/-- Whether the cursor is on a keyword. -/
def checkKeyword (word : String) : Parser Bool := do return (← peek).isKeyword word

/-- Moves on if the cursor is on a token of a kind, and tells whether it was. -/
def consume (kind : TokenKind) : Parser Bool := do
  let found ← check kind
  if found then discard advance
  return found

/-- Moves on if the cursor is on a keyword, and tells whether it was. -/
def consumeKeyword (word : String) : Parser Bool := do
  let found ← checkKeyword word
  if found then discard advance
  return found

/-! ## Rejecting -/

/-- Rejects the token under the cursor. -/
def unexpected (expected : List String) : Parser α := do
  throw (.rejected ⟨.unexpected expected, ← peek⟩)

/-- Rejects a call, whose name is the given token. -/
def invalidCall (name : Token) (reason : ArgumentError) : Parser α :=
  throw (.rejected ⟨.invalidCall reason, name⟩)

/-- What was built from the arguments of a call, or the rejection of the call. -/
def built (name : Token) : Except ArgumentError α → Parser α
  | .ok a => pure a
  | .error reason => invalidCall name reason

/-- Takes a token of a kind. -/
def expect (kind : TokenKind) (expected : String) : Parser Token := do
  if ← check kind then advance else unexpected [expected]

/-- Takes a keyword. -/
def expectKeyword (word : String) : Parser Token := do
  if ← checkKeyword word then advance else unexpected [word]

/-- Takes a closing bracket. -/
def expectEndBracket : Parser Token := expect .endBracket "')'"

/-! ## Repeating -/

/-- Parses items for as long as there are any. -/
def many (item : Parser (Option α)) (c : Cursor) : Parsed (List α) :=
  match item c with
  | .error e c' => .error e c'
  | .ok none c' => .ok [] c'
  | .ok (some a) c' =>
    if _h : c'.remaining < c.remaining then
      match many item c' with
      | .error e c'' => .error e c''
      | .ok as c'' => .ok (a :: as) c''
    else
      .error (.fault .stalled) c'
termination_by c.remaining

/-- One or more items with commas between them. -/
def csv (item : Parser α) : Parser (List α) := do
  let first ← item
  let rest ← many do
    if ← consume .comma then return some (← item) else return none
  return first :: rest

/-- Items with commas between them, or none, and the closing bracket after them. -/
def csvToEndBracket (item : Parser α) : Parser (List α) := do
  if ← consume .endBracket then return []
  let items ← csv item
  if ← consume .endBracket then return items else unexpected ["','", "')'"]

/-- A nested parse, which may begin only where fewer tokens are ahead than at `outer`. -/
def descend (outer : Cursor) (nested : (c : Cursor) → c.remaining < outer.remaining → Parsed α) :
    Parser α := fun c =>
  if h : c.remaining < outer.remaining then nested c h else .error (.fault .stalled) c

end Parser

end SqlDialects
