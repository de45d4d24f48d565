import SqlDialects.Numeral.Read

/-!
# Documents

Data in the usual form: null, truth values, numerals, texts, lists and objects.  A
document is what was written, so a numeral is kept as its digits and an object
keeps its members in order, also two of one name.

A document is read in one pass over its text.  What has been read is kept as a
stack with a frame for each list or object that is still open, and a lexical mode
tells whether the next character goes on with a text or with a bare word.  Commas
and colons only end the word before them, since the frames already tell items from
members and names from values.

In a text an escape may give half of a character beyond the first 65536, and the
two halves are joined.
-/

namespace SqlDialects

/-- A document. -/
inductive Document where
  | null
  | bool (value : Bool)
  /-- A number, as it was written. -/
  | numeral (digits : String)
  | text (value : String)
  | list (items : List Document)
  | object (members : List (String × Document))
  deriving Repr

namespace Document

/-- A list or an object that is still open, the latest part first. -/
private inductive Part where
  | list (items : List Document)
  /-- The members, and the name for which there is no value yet. -/
  | object (members : List (String × Document)) (name? : Option String)

/-- Where in a text or a bare word the reading is. -/
private inductive Mode where
  | between
  /-- In a bare word, its latest character first. -/
  | word (taken : List Char)
  /-- In a text, with the first half of a character if that is what came last. -/
  | text (taken : List Char) (half? : Option Nat)
  /-- Behind a backslash. -/
  | escape (taken : List Char) (half? : Option Nat)
  /-- In the number of an escape, with the number of digits still to come. -/
  | code (taken : List Char) (half? : Option Nat) (value missing : Nat)

/-- What has been read so far. -/
private structure Progress where
  mode : Mode := .between
  parts : List Part := []
  whole? : Option Document := none

/-- Puts a complete document where it belongs. -/
private def Progress.put (p : Progress) (d : Document) : Option Progress :=
  match p.parts, d with
  | [], _ => if p.whole?.isSome then none else some { whole? := some d }
  | .list items :: outer, _ => some { parts := .list (d :: items) :: outer }
  | .object members (some name) :: outer, _ =>
    some { parts := .object ((name, d) :: members) none :: outer }
  | .object members none :: outer, .text name =>
    some { parts := .object members (some name) :: outer }
  | .object _ none :: _, _ => none

/-- What a bare word stands for. -/
private def ofWord (word : String) : Document :=
  match word with
  | "null" => .null
  | "true" => .bool true
  | "false" => .bool false
  | _ => .numeral word

/-- The next character outside texts, where no bare word goes on. -/
private def Progress.mark (p : Progress) (c : Char) : Option Progress :=
  match c, p.parts with
  | '"', _ => some { p with mode := .text [] none }
  | '[', parts => some { p with mode := .between, parts := .list [] :: parts }
  | '\x7b', parts => some { p with mode := .between, parts := .object [] none :: parts }
  | ']', .list items :: outer => { p with parts := outer }.put (.list items.reverse)
  | '\x7d', .object members none :: outer =>
    { p with parts := outer }.put (.object members.reverse)
  | ',', _ | ':', _ | ' ', _ | '\t', _ | '\n', _ | '\r', _ => some { p with mode := .between }
  | _, _ => none

/-- Whether a character can be in a bare word. -/
private def isWordChar (c : Char) : Bool := c.isAlphanum || c = '+' || c = '-' || c = '.'

/-- What an escaped character other than the start of a number stands for. -/
private def unescaped (c : Char) : Char :=
  match c with
  | 'n' => '\n'
  | 't' => '\t'
  | 'r' => '\r'
  | 'b' => '\x08'
  | 'f' => '\x0c'
  | _ => c

/-- Goes on in a text with the number of an escape. -/
private def withCode (taken : List Char) (half? : Option Nat) (value : Nat) : Mode :=
  match half? with
  | some high =>
    let joined := 0x10000 + (high - 0xD800) * 0x400 + (value - 0xDC00)
    .text (Char.ofNat joined :: taken) none
  | none =>
    if 0xD800 ≤ value && value < 0xDC00 then .text taken (some value)
    else .text (Char.ofNat value :: taken) none

/-- Takes one character. -/
private def Progress.step (p : Progress) (c : Char) : Option Progress :=
  match p.mode with
  | .between => if isWordChar c then some { p with mode := .word [c] } else p.mark c
  | .word taken =>
    if isWordChar c then some { p with mode := .word (c :: taken) }
    else (p.put (ofWord (String.ofList taken.reverse))).bind fun p => p.mark c
  | .text taken half? =>
    match c with
    | '"' => p.put (.text (String.ofList taken.reverse))
    | '\\' => some { p with mode := .escape taken half? }
    | _ => some { p with mode := .text (c :: taken) none }
  | .escape taken half? =>
    if c = 'u' then some { p with mode := .code taken half? 0 4 }
    else some { p with mode := .text (unescaped c :: taken) none }
  | .code taken half? value missing => do
    let value := 16 * value + (← Numeral.digitValue? 16 c)
    return { p with
      mode := if missing = 1 then withCode taken half? value
        else .code taken half? value (missing - 1) }

/-- The document that a text writes down. -/
def read? (s : String) : Option Document := do
  let p ← (s.toList ++ ['\n']).foldlM Progress.step {}
  if p.parts.isEmpty then p.whole? else none

end Document

end SqlDialects
