import SqlDialects.Regex.CharClass

/-!
# Reading classes of characters

The written form of a class: between square brackets its entries, which are
single characters, ranges and properties, and behind a caret all characters but
these.  Entries may also be classes with brackets of their own, or have a name
between colons.  Between sequences of entries two ampersands take what both have
in common, two hyphens what only the first has, and two tildes what just one of
them has; they are taken from left to right.

Brackets, carets, hyphens and the like stand for themselves where they can mean
nothing else, or behind a backslash.
-/

namespace SqlDialects.Regex

/-- What a backslash before `c` stands for inside a class. -/
def escapedItem? (c : Char) : Option ClassItem :=
  match c with
  | 's' => some .blank
  | 'S' => some .nonBlank
  | 'n' => some (.range '\n' '\n')
  | 'r' => some (.range '\r' '\r')
  | 't' => some (.range '\t' '\t')
  | _ => if c.isAlphanum then none else some (.range c c)

/-- The general category between braces. -/
def category? : Char → Option ClassItem
  | 'L' => some .letter
  | 'N' => some .number
  | _ => none

/-- The ASCII characters that go by a name between colons. -/
private def namedItems? (name : String) : Option (List ClassItem) :=
  let digits := .range '0' '9'
  let upper := .range 'A' 'Z'
  let lower := .range 'a' 'z'
  match name with
  | "alnum" => some [digits, upper, lower]
  | "alpha" => some [upper, lower]
  | "ascii" => some [.range '\x00' '\x7F']
  | "blank" => some [.range '\t' '\t', .range ' ' ' ']
  | "cntrl" => some [.range '\x00' '\x1F', .range '\x7F' '\x7F']
  | "digit" => some [digits]
  | "graph" => some [.range '!' '~']
  | "lower" => some [lower]
  | "print" => some [.range ' ' '~']
  | "punct" => some [.range '!' '/', .range ':' '@', .range '[' '\x60', .range '\x7B' '~']
  | "space" => some [.range '\t' '\r', .range ' ' ' ']
  | "upper" => some [upper]
  | "word" => some [digits, upper, .range '_' '_', lower]
  | "xdigit" => some [digits, .range 'A' 'F', .range 'a' 'f']
  | _ => none

/-- A class by its name, from what follows its opening bracket. -/
private def readNamed? : List Char → Option (CharClass × List Char)
  | ':' :: s =>
    let (negated, s) :=
      match s with
      | '^' :: rest => (true, rest)
      | _ => (false, s)
    match s.dropWhile (· != ':') with
    | ':' :: ']' :: rest =>
      (namedItems? (.ofList (s.takeWhile (· != ':')))).map fun items =>
        (if negated then .allBut (.anyOf items) else .anyOf items, rest)
    | _ => none
  | _ => none

/-- The first single entry of a text, and the rest. -/
private def readItem? : List Char → Option (ClassItem × List Char)
  | [] => none
  | '\\' :: 'p' :: '\x7b' :: c :: '\x7d' :: s => (category? c).map (·, s)
  | '\\' :: c :: s => (escapedItem? c).map (·, s)
  | '\\' :: [] => none
  | c :: s => some (.range c c, s)

/-- The range from one entry to another, which must be single characters. -/
private def rangeTo? : ClassItem → ClassItem → Option ClassItem
  | .range first first', .range last last' =>
    if first = first' ∧ last = last' ∧ first ≤ last then some (.range first last) else none
  | _, _ => none

/-- The first entry or range of a text, and the rest.  A hyphen makes a range unless a closing
bracket or another hyphen follows it. -/
private def readRange? (s : List Char) : Option (ClassItem × List Char) := do
  let (first, s) ← readItem? s
  match s with
  | '-' :: ']' :: _ => return (first, s)
  | '-' :: '-' :: _ => return (first, s)
  | '-' :: s =>
    let (last, s) ← readItem? s
    return (← rangeTo? first last, s)
  | _ => return (first, s)

/-- What has been read since a bracket opened. -/
private structure ClassFrame where
  /-- Whether a caret followed the bracket. -/
  negated : Bool
  /-- What the entries before the last operation make of those since. -/
  combine : CharClass → CharClass := id
  /-- The entries since then. -/
  members : CharClass := .anyOf []

/-- The frame with one more entry. -/
private def ClassFrame.add (f : ClassFrame) (item : ClassItem) : ClassFrame :=
  match f.members with
  | .anyOf items => { f with members := .anyOf (items ++ [item]) }
  | members => { f with members := .union members (.anyOf [item]) }

/-- The frame with all members of another class. -/
private def ClassFrame.join (f : ClassFrame) (k : CharClass) : ClassFrame :=
  { f with members := .union f.members k }

/-- The frame after an operation. -/
private def ClassFrame.operate (f : ClassFrame) (op : CharClass → CharClass → CharClass) :
    ClassFrame :=
  { f with combine := op (f.combine f.members), members := .anyOf [] }

/-- The class that has been read. -/
private def ClassFrame.close (f : ClassFrame) : CharClass :=
  let k := f.combine f.members
  if f.negated then .allBut k else k

/-- What follows an opening bracket: a caret perhaps, and then any hyphens, or else a closing
bracket, which stand for themselves in this place. -/
private def openClass (s : List Char) : ClassFrame × List Char :=
  let (negated, s) :=
    match s with
    | '^' :: rest => (true, rest)
    | _ => (false, s)
  match s with
  | ']' :: rest => ({ negated, members := .only ']' }, rest)
  | _ =>
    let hyphens := s.takeWhile (· = '-')
    ({ negated, members := .anyOf (hyphens.map fun c => .range c c) }, s.drop hyphens.length)

/-- Reads on to the bracket that closes the outermost frame.  Every step takes at least one
character, so the length of the text bounds their number. -/
private def readMembers? :
    Nat → ClassFrame → (outer : List ClassFrame) → List Char → Option (CharClass × List Char)
  | 0, _, _, _ => none
  | bound + 1, frame, outer, s =>
    match s with
    | [] => none
    | '[' :: s =>
      match readNamed? s with
      | some (k, rest) => readMembers? bound (frame.join k) outer rest
      | none =>
        let (inner, rest) := openClass s
        readMembers? bound inner (frame :: outer) rest
    | ']' :: s =>
      match outer with
      | [] => some (frame.close, s)
      | parent :: outer => readMembers? bound (parent.join frame.close) outer s
    | '&' :: '&' :: s => readMembers? bound (frame.operate .inter) outer s
    | '-' :: '-' :: s => readMembers? bound (frame.operate .diff) outer s
    | '~' :: '~' :: s => readMembers? bound (frame.operate .symmDiff) outer s
    | _ => do
      let (item, rest) ← readRange? s
      readMembers? bound (frame.add item) outer rest

/-- How many characters a class takes up to the bracket that balances its opening one, where `depth`
more are open. -/
private def lengthOfClass? : (depth : Nat) → List Char → Option Nat
  | _, [] => none
  | 0, ']' :: _ => some 1
  | depth + 1, ']' :: s => (lengthOfClass? depth s).map (· + 1)
  | depth, '[' :: s => (lengthOfClass? (depth + 1) s).map (· + 1)
  | depth, '\\' :: _ :: s => (lengthOfClass? depth s).map (· + 2)
  | depth, _ :: s => (lengthOfClass? depth s).map (· + 1)

/-- A class, from what follows its opening bracket, and the rest.  The brackets in it must
balance, also where they stand for themselves without a backslash, except for a closing one in the
first place. -/
def readClass? (s : List Char) : Option (CharClass × List Char) := do
  let caret := if s.head? = some '^' then 1 else 0
  let first := if s[caret]? = some ']' then caret + 1 else caret
  let length := first + (← lengthOfClass? 0 (s.drop first))
  let (frame, rest) := openClass (s.take length)
  let (k, rest) ← readMembers? length frame [] rest
  return (k, rest ++ s.drop length)

end SqlDialects.Regex
