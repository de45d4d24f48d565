/-!
# Sets of code points

A property of characters that a standard lists, such as "is a letter", is a set
of code points.  Such sets come in runs, so they are kept as closed ranges in
ascending order, and membership stops at the first range that begins above the
code point it looks for: a character of ASCII is settled by the first entries
of a table of hundreds.

A search that stops early is right only if the ranges do ascend.  So a table
carries the proof that it does, and `CodeRanges.contains_iff` holds of them all.
-/

namespace SqlDialects.Text

/-- Ranges from `least` on, in ascending order: each ends where it begins or later, and before the
next begins. -/
def AscendFrom (least : Nat) : List (Nat × Nat) → Prop
  | [] => True
  | (first, last) :: rest => least ≤ first ∧ first ≤ last ∧ AscendFrom (last + 1) rest

instance AscendFrom.decidable (least : Nat) :
    (ranges : List (Nat × Nat)) → Decidable (AscendFrom least ranges)
  | [] => isTrue trivial
  | (first, last) :: rest =>
    have := AscendFrom.decidable (last + 1) rest
    inferInstanceAs (Decidable (least ≤ first ∧ first ≤ last ∧ AscendFrom (last + 1) rest))

/-- A set of code points: disjoint closed ranges, in ascending order. -/
structure CodeRanges where
  ranges : List (Nat × Nat)
  ascend : AscendFrom 0 ranges := by decide +kernel

/-- Whether `n` lies in one of the ranges, which ascend. -/
def lieIn : List (Nat × Nat) → Nat → Bool
  | [], _ => false
  | (first, last) :: rest, n => first ≤ n && (n ≤ last || lieIn rest n)

theorem AscendFrom.le_of_mem {least : Nat} {ranges : List (Nat × Nat)}
    (h : AscendFrom least ranges) {r : Nat × Nat} (hr : r ∈ ranges) : least ≤ r.1 := by
  induction ranges generalizing least with
  | nil => cases hr
  | cons s rest ih =>
    obtain ⟨hleast, hlast, hrest⟩ := h
    rcases List.mem_cons.1 hr with rfl | hr
    · exact hleast
    · have hnext := ih hrest hr
      omega

/-- In ascending ranges the search misses nothing, although it stops early. -/
theorem lieIn_iff {least : Nat} {ranges : List (Nat × Nat)} (h : AscendFrom least ranges)
    {n : Nat} : lieIn ranges n = true ↔ ∃ r ∈ ranges, r.1 ≤ n ∧ n ≤ r.2 := by
  induction ranges generalizing least with
  | nil => simp [lieIn]
  | cons r rest ih =>
    obtain ⟨-, hlast, hrest⟩ := h
    simp only [lieIn, Bool.and_eq_true, Bool.or_eq_true, decide_eq_true_eq, ih hrest]
    constructor
    · rintro ⟨hfirst, hn | ⟨s, hs, hn⟩⟩
      · exact ⟨r, List.mem_cons_self, hfirst, hn⟩
      · exact ⟨s, List.mem_cons_of_mem r hs, hn⟩
    · rintro ⟨s, hs, hn⟩
      rcases List.mem_cons.1 hs with rfl | hs
      · exact ⟨hn.1, .inl hn.2⟩
      · have hnext := hrest.le_of_mem hs
        exact ⟨by omega, .inr ⟨s, hs, hn⟩⟩

namespace CodeRanges

/-- Whether `n` is in the set. -/
def contains (k : CodeRanges) (n : Nat) : Bool := lieIn k.ranges n

/-- What is in the set is what lies in one of its ranges. -/
theorem contains_iff (k : CodeRanges) {n : Nat} :
    k.contains n = true ↔ ∃ r ∈ k.ranges, r.1 ≤ n ∧ n ≤ r.2 :=
  lieIn_iff k.ascend

end CodeRanges

end SqlDialects.Text
