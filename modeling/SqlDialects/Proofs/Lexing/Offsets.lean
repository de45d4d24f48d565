import SqlDialects.Proofs.Lexing.Partition

/-!
# Scanning by offsets

The lexical rules go over characters and hand back what they leave.  A scanner can
as well count bytes and slice the text wherever it needs to look: after each match, to
go on with what is left, and inside a quoted literal, to see whether another quote
follows the one that was found.  A slice can fail, which is why the two are compared
here with failure in sight.

`scanQuoted` is the second way to look at quotes, with a result of its own for a slice
that cannot be taken.  Its offsets are lengths of what was passed, so all its slices are
at characters, and it comes to what `Lexical.reactQuoted` comes to
(`quotedEnd?_eq`).
-/

namespace SqlDialects

namespace Lexical

/-- How a scan for the closing quote ends that goes by offsets. -/
inductive QuotedEnd where
  /-- A slice was to begin where the text cannot be cut. -/
  | misplaced
  /-- The text is over. -/
  | unterminated
  /-- The closing quote ends at this offset. -/
  | closed (stop : Nat)
  deriving DecidableEq, Repr

/-- Looks for the closing quote among the characters from an offset of the source on.  Whether a
quote closes is seen at the slice of the source behind it. -/
def scanQuoted (source : List Char) (closing : Char) (escape : Option Char) :
    Nat → List Char → QuotedEnd
  | _, [] => .unterminated
  | offset, c :: s =>
    if some c = escape then
      match s with
      | [] => .unterminated
      | d :: s => scanQuoted source closing escape (offset + c.utf8Size + d.utf8Size) s
    else if c = closing then
      match Text.splitAtByte? (offset + c.utf8Size) source with
      | none => .misplaced
      | some (_, ahead) =>
        if ahead.head? = some closing then
          match s with
          | [] => .unterminated
          | d :: s => scanQuoted source closing escape (offset + c.utf8Size + d.utf8Size) s
        else .closed (offset + c.utf8Size)
    else scanQuoted source closing escape (offset + c.utf8Size) s

/-- Where a quoted literal ends, if the source begins with its opening quote. -/
def quotedEnd? (opening closing : Char) (escape : Option Char) : List Char → Option QuotedEnd
  | [] => none
  | c :: s =>
    if c = opening then some (scanQuoted (c :: s) closing escape c.utf8Size s) else none

namespace QuotedEnd

/-- The end that is found by cutting the text in two, from an offset on. -/
def ofSplit? (offset : Nat) : Option Split → QuotedEnd
  | none => .unterminated
  | some (text, _) => .closed (offset + Text.byteLength text)

/-- The end that is found in a reaction. -/
def ofReaction : Reaction → QuotedEnd
  | .matched text _ => .closed (Text.byteLength text)
  | .unterminated => .unterminated

theorem ofSplit?_map (offset : Nat) (u : List Char) (split : Option Split) :
    ofSplit? offset (split.map fun (t, rest) => (u ++ t, rest)) =
      ofSplit? (offset + Text.byteLength u) split := by
  cases split with
  | none => rfl
  | some pair =>
    show closed (offset + Text.byteLength (u ++ pair.1)) = closed _
    rw [Text.byteLength_append, Nat.add_assoc]

end QuotedEnd

variable {closing : Char} {escape : Option Char}

/-- Behind a character that was reached the source can be cut. -/
theorem splitAtByte?_behind (before s : List Char) (c : Char) :
    Text.splitAtByte? (Text.byteLength before + c.utf8Size) (before ++ c :: s) =
      some (before ++ [c], s) := by
  have hcut := Text.splitAtByte?_append (before ++ [c]) s
  rwa [Text.byteLength_append, List.append_assoc] at hcut

/-- What a scan comes to behind two more characters. -/
theorem scanQuoted_behind_two {before s : List Char} {c d : Char} {x : QuotedEnd}
    (h : scanQuoted (before ++ [c, d] ++ s) closing escape (Text.byteLength (before ++ [c, d])) s =
      x) :
    scanQuoted (before ++ c :: d :: s) closing escape
      (Text.byteLength before + c.utf8Size + d.utf8Size) s = x := by
  have hlength : Text.byteLength (before ++ [c, d]) =
      Text.byteLength before + c.utf8Size + d.utf8Size :=
    (Text.byteLength_append ..).trans (Nat.add_assoc ..).symm
  rwa [hlength, List.append_assoc] at h

/-- **A scan by offsets finds the quote that a scan by characters finds.** -/
theorem scanQuoted_eq (before s : List Char) :
    scanQuoted (before ++ s) closing escape (Text.byteLength before) s =
      .ofSplit? (Text.byteLength before) (splitQuotedBody? closing escape s) := by
  -- along the scan by characters; what was passed before is the offset of the other
  fun_induction splitQuotedBody? closing escape s generalizing before with
  | case1 => rfl
  | case2 c hclose =>
    obtain ⟨hescape, rfl⟩ := hclose
    rw [scanQuoted, if_neg hescape, if_pos rfl, splitAtByte?_behind]
    rfl
  | case3 c hnot =>
    rw [scanQuoted]
    by_cases hescape : some c = escape
    · rw [if_pos hescape]
      rfl
    · rw [if_neg hescape, if_neg fun hc => hnot ⟨hescape, hc⟩]
      rfl
  | case4 c d s hescape ih =>
    have hrest := scanQuoted_behind_two (ih (before ++ [c, d]))
    rw [scanQuoted, if_pos hescape]
    refine hrest.trans ?_
    rw [Text.byteLength_append]
    exact (QuotedEnd.ofSplit?_map _ [c, d] _).symm
  | case5 s hescape ih =>
    have hrest := scanQuoted_behind_two (ih (before ++ [closing, closing]))
    rw [scanQuoted, if_neg hescape, if_pos rfl, splitAtByte?_behind]
    refine (if_pos rfl).trans (hrest.trans ?_)
    rw [Text.byteLength_append]
    exact (QuotedEnd.ofSplit?_map _ [closing, closing] _).symm
  | case6 d s hd hescape =>
    rw [scanQuoted, if_neg hescape, if_pos rfl, splitAtByte?_behind]
    exact if_neg fun hhead => hd (Option.some.inj hhead)
  | case7 c d s hescape hclosing ih =>
    have hrest := ih (before ++ [c])
    rw [Text.byteLength_append, List.append_assoc] at hrest
    rw [scanQuoted, if_neg hescape, if_neg hclosing]
    exact hrest.trans (QuotedEnd.ofSplit?_map _ [c] _).symm

/-- **So does the scan for a whole literal**, and none of its slices fails. -/
theorem quotedEnd?_eq (opening closing : Char) (escape : Option Char) (s : List Char) :
    quotedEnd? opening closing escape s =
      (reactQuoted opening closing escape s).map QuotedEnd.ofReaction := by
  cases s with
  | nil => rfl
  | cons c s =>
    rw [quotedEnd?, reactQuoted]
    by_cases hopening : c = opening
    · rw [if_pos hopening, if_pos hopening]
      refine (congrArg some (scanQuoted_eq [c] s)).trans ?_
      cases splitQuotedBody? closing escape s <;> rfl
    · rw [if_neg hopening, if_neg hopening]
      rfl

theorem quotedEnd?_ne_misplaced (opening closing : Char) (escape : Option Char) (s : List Char) :
    quotedEnd? opening closing escape s ≠ some .misplaced := by
  rw [quotedEnd?_eq]
  rcases reactQuoted opening closing escape s with _ | ⟨_ | _⟩ <;> exact nofun

end Lexical

/-- **What is left behind a match is a slice of what there was**, as long as the match is. -/
theorem Lexer.ReactsFirst.splitAtByte?_eq {rules : List LexicalRule} {s text rest : List Char}
    {rule : LexicalRule} (h : ReactsFirst rules s rule (.matched text rest)) :
    Text.splitAtByte? (Text.byteLength text) s = some (text, rest) := by
  rw [← h.of_matched.1]
  exact Text.splitAtByte?_append text rest

end SqlDialects
