import SqlDialects.Text.Character

/-!
# Names and lists of words

SQL compares names and keywords without regard to the case of ASCII letters, and
only of those: a letter outside ASCII equals itself alone.  A plain name is one
that needs no quotes in any dialect, namely an ASCII letter or underscore
followed by ASCII letters, digits and underscores.

Keyword lists are written one word to a line.  Blanks around a word and empty
lines do not count.
-/

namespace SqlDialects.Text

/-! ## Names -/

/-- Whether two texts agree up to the case of their ASCII letters. -/
def sameIgnoringCase (a b : String) : Bool := a.toUpper == b.toUpper

/-- A character that may begin a plain name. -/
def beginsPlainName (c : Char) : Bool := c.isAlpha || c == '_'

/-- A character that may stand inside a plain name. -/
def continuesPlainName (c : Char) : Bool := c.isAlphanum || c == '_'

/-- Whether `name` may be written without quotes, keywords apart. -/
def isPlainName (name : String) : Bool :=
  match name.toList with
  | [] => false
  | c :: cs => beginsPlainName c && cs.all continuesPlainName

@[simp] theorem sameIgnoringCase_self (a : String) : sameIgnoringCase a a = true := by
  simp [sameIgnoringCase]

/-! ## Lists of words -/

/-- The lines of a text, without their line feeds. -/
def lines : List Char → List (List Char)
  | [] => [[]]
  | c :: cs =>
    if c = '\n' then
      [] :: lines cs
    else
      match lines cs with
      | [] => [[c]]
      | line :: rest => (c :: line) :: rest

/-- A text without the blanks at its two ends. -/
def trim (s : List Char) : List Char :=
  ((s.dropWhile isBlank).reverse.dropWhile isBlank).reverse

/-- The words of a list with one word to a line. -/
def wordsOfLines (s : String) : List String :=
  ((lines s.toList).map fun line => String.ofList (trim line)).filter (· ≠ "")

end SqlDialects.Text
