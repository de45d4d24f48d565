import SqlDialects.Text.Slice

/-!
# What stands between quotes

How a text is written inside the quotes of a string literal or a quoted name, and
how it is read back.

Inside the quotes of a name the closing quote is written twice.  Inside those of a
string there are two ways.  Without an escape character the quote is written
twice.  With one, the escape goes before the quote, before itself, and before a
letter that stands for a control character; and on reading it protects whatever
comes next, while a doubled quote still stands for one.
-/

namespace SqlDialects.Quoting

/-! ## Strings -/

/-- What follows the escape character in place of `c`, if `c` is escaped. -/
def escaped? (escape c : Char) : Option Char :=
  match c with
  | '\'' => some '\''
  | '\n' => some 'n'
  | '\t' => some 't'
  | '\r' => some 'r'
  | '\x00' => some '0'
  | _ => if c = escape then some escape else none

/-- What an escape character and the `c` after it stand for. -/
def unescaped (c : Char) : Char :=
  match c with
  | 'n' => '\n'
  | 't' => '\t'
  | 'r' => '\r'
  | '0' => '\x00'
  | _ => c

/-- One character inside the quotes of a string. -/
def encodeChar (escape : Option Char) (c : Char) : List Char :=
  match escape with
  | none => if c = '\'' then ['\'', '\''] else [c]
  | some e =>
    match escaped? e c with
    | some d => [e, d]
    | none => [c]

/-- A text inside the quotes of a string. -/
def encode (escape : Option Char) (value : List Char) : List Char :=
  value.flatMap (encodeChar escape)

/-- The text that stands inside the quotes of a string. -/
def decode (escape : Option Char) : List Char → List Char
  | [] => []
  | [c] => if some c = escape then [] else [c]
  | c :: d :: s =>
    if some c = escape then unescaped d :: decode escape s
    else if c = '\'' then c :: decode escape s
    else c :: decode escape (d :: s)

/-- A string literal. -/
def writeString (escape : Option Char) (value : String) : String :=
  .ofList (['\''] ++ encode escape value.toList ++ ['\''])

/-- The text of a string literal, or nothing if there are no two quotes of one byte to take off. -/
def readString? (escape : Option Char) (literal : String) : Option String :=
  let text := literal.toList
  (Text.slice? 1 (Text.byteLength text - 1) text).map fun body => .ofList (decode escape body)

/-! ## Names -/

/-- A text inside the quotes of a name. -/
def double (closing : Char) (name : List Char) : List Char :=
  name.flatMap fun c => if c = closing then [c, c] else [c]

/-- The text that stands inside the quotes of a name. -/
def undouble (closing : Char) : List Char → List Char
  | [] => []
  | [c] => [c]
  | c :: d :: s =>
    if c = closing ∧ d = closing then c :: undouble closing s
    else c :: undouble closing (d :: s)

/-- A quoted name. -/
def writeName (opening closing : Char) (name : String) : String :=
  .ofList ([opening] ++ double closing name.toList ++ [closing])

/-- The name in a quoted name: without its first character and its last, which is the quote that
is doubled inside. -/
def readName (quoted : String) : String :=
  match quoted.toList with
  | [] => ""
  | _ :: rest =>
    match rest.getLast? with
    | none => ""
    | some closing => .ofList (undouble closing rest.dropLast)

/-! ## What is written is read back -/

/-- A doubled quote is read as one, whatever follows. -/
theorem undouble_double (closing : Char) (name : List Char) :
    undouble closing (double closing name) = name := by
  induction name with
  | nil => rfl
  | cons c s ih =>
    unfold double at ih ⊢
    rw [List.flatMap_cons]
    split
    · subst_vars
      simp [undouble, ih]
    · rename_i h
      cases hs : s.flatMap (fun c => if c = closing then [c, c] else [c]) with
      | nil =>
        rw [hs] at ih
        simp [undouble, ← ih]
      | cons d t =>
        rw [hs] at ih
        simp [undouble, h, ih]

@[simp] theorem readName_writeName (opening closing : Char) (name : String) :
    readName (writeName opening closing name) = name := by
  simp [readName, writeName, undouble_double]

end SqlDialects.Quoting
