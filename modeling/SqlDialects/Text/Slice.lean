/-!
# Cutting a text at byte offsets

Positions in a SQL text are byte offsets into its UTF-8 form, while everything
that reads the text goes by characters.  A cut is therefore partial: an offset
past the end, or inside a character, cuts nothing.
-/

namespace SqlDialects.Text

/-- The number of bytes of a text in UTF-8. -/
def byteLength (s : List Char) : Nat := s.foldr (fun c n => c.utf8Size + n) 0

@[simp] theorem byteLength_nil : byteLength [] = 0 := rfl

@[simp] theorem byteLength_cons (c : Char) (s : List Char) :
    byteLength (c :: s) = c.utf8Size + byteLength s := rfl

@[simp] theorem byteLength_append (s t : List Char) :
    byteLength (s ++ t) = byteLength s + byteLength t := by
  induction s with
  | nil => simp
  | cons c s ih => rw [List.cons_append, byteLength_cons, byteLength_cons, ih, Nat.add_assoc]

/-- A text cut in two after `n` bytes, unless that is past its end or inside a character. -/
def splitAtByte? : Nat → List Char → Option (List Char × List Char)
  | 0, s => some ([], s)
  | _ + 1, [] => none
  | n + 1, c :: s =>
    if c.utf8Size ≤ n + 1 then
      (splitAtByte? (n + 1 - c.utf8Size) s).map fun (t, rest) => (c :: t, rest)
    else
      none

/-- The part of a text from byte `start` up to byte `stop`. -/
def slice? (start stop : Nat) (s : List Char) : Option (List Char) :=
  if stop < start then
    none
  else
    (splitAtByte? start s).bind fun (_, rest) =>
      (splitAtByte? (stop - start) rest).map fun (middle, _) => middle

@[simp] theorem splitAtByte?_zero (s : List Char) : splitAtByte? 0 s = some ([], s) := by
  cases s <;> rfl

/-- A cut after a first part succeeds and gives that part. -/
theorem splitAtByte?_append (t rest : List Char) :
    splitAtByte? (byteLength t) (t ++ rest) = some (t, rest) := by
  induction t with
  | nil => simp
  | cons c t ih =>
    have hpos : 0 < c.utf8Size := Char.utf8Size_pos c
    obtain ⟨k, hk⟩ : ∃ k, byteLength (c :: t) = k + 1 :=
      ⟨byteLength (c :: t) - 1, by rw [byteLength_cons]; omega⟩
    rw [hk, List.cons_append, splitAtByte?, ← hk, byteLength_cons, if_pos (by omega),
      Nat.add_sub_cancel_left, ih]
    rfl

/-- The middle one of three parts lies between the bytes where it begins and ends. -/
theorem slice?_append (before middle rest : List Char) :
    slice? (byteLength before) (byteLength before + byteLength middle)
      (before ++ (middle ++ rest)) = some middle := by
  simp [slice?, splitAtByte?_append]

/-- What stands between two characters of one byte is a slice of the text. -/
theorem slice?_between {opening closing : Char} (hopening : opening.utf8Size = 1)
    (hclosing : closing.utf8Size = 1) (body : List Char) :
    slice? 1 (byteLength (opening :: (body ++ [closing])) - 1) (opening :: (body ++ [closing])) =
      some body := by
  have hslice := slice?_append [opening] body [closing]
  have hfirst : byteLength [opening] = 1 := hopening
  have hlength : byteLength (opening :: (body ++ [closing])) - 1 = 1 + byteLength body := by
    rw [byteLength_cons, byteLength_append, byteLength_cons, byteLength_nil, hopening, hclosing]
    omega
  rw [hlength]
  rwa [hfirst] at hslice

end SqlDialects.Text
