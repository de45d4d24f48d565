import SqlDialects.Regex.Basic
import SqlDialects.Regex.ReadClass

/-!
# Reading regular expressions

The written form of a regular expression.  It is read in two steps.  First it is
cut into pieces: brackets, bars, repetition marks, and atoms, where a class in
square brackets or a backslash with what it escapes is one atom.  Then the pieces
are taken one after another onto a stack with a frame for each open bracket.

A backslash takes the special meaning from a mark of punctuation, with one
exception: outside a class, before an angle bracket, it stands for the start or
the end of a word.

A text that is no regular expression, such as one with a bracket that never
closes, is not read at all.
-/

namespace SqlDialects.Regex

/-- A piece of a written regular expression. -/
private inductive Piece where
  | opening
  | closing
  | bar
  | zeroOrMore
  | oneOrMore
  | zeroOrOne
  /-- A repetition between `least` and `most` times, where no `most` is no bound, and how it is
  written. -/
  | counted (least : Nat) (most : Option Nat) (written : List Char)
  | atom (r : Regex)

/-- The numeral at the start of a text, and the rest. -/
private def readCount? (s : List Char) : Option (Nat × List Char) :=
  let digits := s.takeWhile Char.isDigit
  if digits.isEmpty then none
  else some (digits.foldl (fun n d => 10 * n + (d.toNat - '0'.toNat)) 0, s.drop digits.length)

/-- A counted repetition, from what follows its opening brace. -/
private def readCounted? (s : List Char) : Option (Piece × List Char) := do
  let (least, rest) ←
    match s with
    | ',' :: _ => pure (0, s)
    | _ => readCount? s
  let (most, rest) ←
    match rest with
    | ',' :: rest =>
      match readCount? rest with
      | some (most, rest) => pure (some most, rest)
      | none => pure (none, rest)
    | _ => pure (some least, rest)
  match rest with
  | '\x7d' :: rest => return (.counted least most (s.take (s.length - rest.length)), rest)
  | _ => none

/-- The first piece of a text that is not empty, and the rest. -/
private def readPiece? (c : Char) (s : List Char) : Option (Piece × List Char) :=
  match c, s with
  | '(', _ => some (.opening, s)
  | ')', _ => some (.closing, s)
  | '|', _ => some (.bar, s)
  | '*', _ => some (.zeroOrMore, s)
  | '+', _ => some (.oneOrMore, s)
  | '?', _ => some (.zeroOrOne, s)
  | '\x7b', _ => some ((readCounted? s).getD (.atom (.single (.only c)), s))
  | '^', _ => some (.atom (.anchor .textStart), s)
  | '$', _ => some (.atom (.anchor .textEnd), s)
  | '.', _ => some (.atom (.single .anyInLine), s)
  | '[', _ => (readClass? s).map fun (k, rest) => (.atom (.single k), rest)
  | '\\', 'p' :: '\x7b' :: k :: '\x7d' :: rest =>
    (category? k).map fun item => (.atom (.single (.anyOf [item])), rest)
  | '\\', '<' :: rest => some (.atom (.anchor .wordStart), rest)
  | '\\', '>' :: rest => some (.atom (.anchor .wordEnd), rest)
  | '\\', k :: rest => (escapedItem? k).map fun item => (.atom (.single (.anyOf [item])), rest)
  | '\\', [] => none
  | _, _ => some (.atom (.single (.only c)), s)

/-- The pieces of a text.  Every piece takes at least one character, so the length of the text
bounds their number. -/
private def readPieces? : Nat → List Char → Option (List Piece)
  | _, [] => some []
  | 0, _ :: _ => none
  | bound + 1, c :: s => do
    let (piece, rest) ← readPiece? c s
    return piece :: (← readPieces? bound rest)

/-- What a repetition mark would follow. -/
private inductive Footing where
  /-- Nothing that could be repeated: an anchor, a bar or the start. -/
  | nothing
  /-- A character or something in brackets. -/
  | item
  /-- A repetition mark, which a question mark may make reluctant. -/
  | mark

/-- What has been read since a bracket opened: the alternatives before the last bar, the items
since then, last first, and what the last of them is to a repetition mark. -/
private structure Frame where
  alternatives : Option Regex := none
  items : List Regex := []
  footing : Footing := .nothing

/-- The items since the last bar, in sequence. -/
private def Frame.sequence (f : Frame) : Regex :=
  match f.items with
  | [] => .empty
  | last :: before => before.foldl (fun r item => .seq item r) last

/-- All that has been read since the bracket opened. -/
private def Frame.regex (f : Frame) : Regex :=
  match f.alternatives with
  | none => f.sequence
  | some r => .either r f.sequence

/-- The frame with one more item. -/
private def Frame.push (f : Frame) (r : Regex) : Frame :=
  let footing :=
    match r with
    | .anchor _ => .nothing
    | _ => .item
  { f with items := r :: f.items, footing }

/-- The frame with its last item repeated as a mark says, if there is one to repeat. -/
private def Frame.repeat? (f : Frame) (change : Regex → Option Regex) : Option Frame :=
  match f.footing, f.items with
  | .item, last :: before =>
    (change last).map fun r => { f with items := r :: before, footing := .mark }
  | _, _ => none

/-- The greatest count of repetitions that may be written. -/
private def greatestCount : Nat := 10000

/-- An expression `least` times, and then up to `most` times or, if it is one character, any number
of times. -/
private def repeatCounted? (r : Regex) (least : Nat) (most : Option Nat) : Option Regex := do
  let more ←
    match most, r with
    | some most, _ =>
      if least ≤ most ∧ most ≤ greatestCount then
        let extra := List.replicate (most - least) r
        some (extra.foldr (fun r rest => .optional (.seq r rest)) .empty)
      else
        none
    | none, .single k => some (.many k)
    | none, _ => none
  if least ≤ greatestCount then some ((List.replicate least r).foldr .seq more) else none

/-- Takes one piece onto the stack of open brackets. -/
private def step? (stack : Frame × List Frame) (piece : Piece) : Option (Frame × List Frame) :=
  let (frame, outer) := stack
  match piece with
  | .opening => some ({}, frame :: outer)
  | .closing =>
    match outer with
    | [] => none
    | parent :: outer =>
      some ({ parent with items := frame.regex :: parent.items, footing := .item }, outer)
  | .bar => some ({ alternatives := some frame.regex }, outer)
  | .zeroOrMore =>
    (frame.repeat? fun
      | .single k => some (.many k)
      | _ => none).map (·, outer)
  | .oneOrMore =>
    (frame.repeat? fun
      | .single k => some (.oneOrMore k)
      | _ => none).map (·, outer)
  | .zeroOrOne =>
    match frame.footing with
    | .mark => some ({ frame with footing := .nothing }, outer)
    | _ => (frame.repeat? fun r => some (.optional r)).map (·, outer)
  | .counted least most written =>
    match frame.footing with
    | .item => (frame.repeat? (repeatCounted? · least most)).map (·, outer)
    | _ => some (('\x7b' :: written).foldl (fun f c => f.push (.single (.only c))) frame, outer)
  | .atom r => some (frame.push r, outer)

/-- The regular expression that a text writes down. -/
def read? (s : String) : Option Regex := do
  let pieces ← readPieces? s.toList.length s.toList
  let (frame, outer) ← pieces.foldlM step? ({}, [])
  if outer.isEmpty then some frame.regex else none

end SqlDialects.Regex
