import SqlDialects.Text.Slice

/-!
# Places in a text

A `Place` is a point of a text as a reader of it counts: the byte offset, and the
line and the character within the line, both from one.  Only the line feed begins
a new line, and a line is counted in characters, so that a place agrees with what
an editor shows.

A `Span` is a stretch of text, by its two offsets and the line and column where
it begins.
-/

namespace SqlDialects

/-- A stretch of a text. -/
structure Span where
  /-- The byte offset where the stretch begins. -/
  start : Nat := 0
  /-- The byte offset where it ends. -/
  stop : Nat := 0
  /-- The line it begins in, from one; zero if it belongs to no text. -/
  line : Nat := 0
  /-- The character of that line at which it begins, from one. -/
  column : Nat := 0
  deriving DecidableEq, Repr, Inhabited

namespace Span

/-- The empty stretch at an offset. -/
def point (offset line column : Nat) : Span := ⟨offset, offset, line, column⟩

/-- Whether a stretch holds no text. -/
def isPoint (s : Span) : Bool := s.stop ≤ s.start

/-- Where a stretch begins, as messages say it. -/
def describe (s : Span) : String := s!"line {s.line}, position {s.column}"

/-- The part of a text that a stretch covers, unless it runs backwards, past the end or through a
character. -/
def textIn? (s : Span) (text : String) : Option String :=
  (Text.slice? s.start s.stop text.toList).map String.ofList

end Span

/-- A point of a text, as its reader counts. -/
structure Place where
  offset : Nat
  line : Nat
  column : Nat
  deriving DecidableEq, Repr

namespace Place

/-- The beginning of every text. -/
def first : Place := ⟨0, 1, 1⟩

/-- The place after one more character. -/
def next (p : Place) (c : Char) : Place :=
  if c = '\n' then ⟨p.offset + c.utf8Size, p.line + 1, 1⟩
  else ⟨p.offset + c.utf8Size, p.line, p.column + 1⟩

/-- The place after some text. -/
def after (p : Place) (text : List Char) : Place := text.foldl next p

/-- The empty stretch at a place. -/
def span (p : Place) : Span := .point p.offset p.line p.column

/-- The stretch of a text that begins at a place. -/
def spanOf (p : Place) (text : List Char) : Span :=
  ⟨p.offset, p.offset + Text.byteLength text, p.line, p.column⟩

@[simp] theorem after_nil (p : Place) : p.after [] = p := rfl

@[simp] theorem after_cons (p : Place) (c : Char) (s : List Char) :
    p.after (c :: s) = (p.next c).after s := rfl

@[simp] theorem after_append (p : Place) (s t : List Char) :
    p.after (s ++ t) = (p.after s).after t := by
  simp [after]

/-- A text takes as many bytes as it has. -/
theorem offset_after (p : Place) (s : List Char) :
    (p.after s).offset = p.offset + Text.byteLength s := by
  induction s generalizing p with
  | nil => rfl
  | cons c s ih =>
    rw [after_cons, ih, Text.byteLength_cons]
    unfold next
    split <;> simp only <;> omega

/-- Each line feed begins a line. -/
theorem line_after (p : Place) (s : List Char) :
    (p.after s).line = p.line + s.count '\n' := by
  induction s generalizing p with
  | nil => rfl
  | cons c s ih =>
    rw [after_cons, ih, List.count_cons]
    unfold next
    split
    · simp_all only [beq_self_eq_true, if_true]
      omega
    · simp_all

end Place

end SqlDialects
