import SqlDialects.Text.Character

/-!
# Classes of characters

A class stands for any one of a set of characters.  At its simplest it lists
them, one by one, by ranges or by a property; and classes combine as sets do.
-/

namespace SqlDialects

/-- One entry of a class that lists its characters. -/
inductive ClassItem where
  | range (first last : Char)
  | blank
  | nonBlank
  | letter
  | number
  deriving DecidableEq, Repr

/-- Whether an entry of a class covers `c`. -/
def ClassItem.contains (c : Char) : ClassItem → Bool
  | .range first last => first ≤ c && c ≤ last
  | .blank => Text.isBlank c
  | .nonBlank => !Text.isBlank c
  | .letter => Text.isLetter c
  | .number => Text.isNumber c

/-- A class of characters. -/
inductive CharClass where
  | anyOf (items : List ClassItem)
  | allBut (k : CharClass)
  | union (k l : CharClass)
  | inter (k l : CharClass)
  | diff (k l : CharClass)
  | symmDiff (k l : CharClass)
  deriving DecidableEq, Repr

namespace CharClass

/-- Whether `c` belongs to a class. -/
def contains (c : Char) : CharClass → Bool
  | .anyOf items => items.any (·.contains c)
  | .allBut k => !contains c k
  | .union k l => contains c k || contains c l
  | .inter k l => contains c k && contains c l
  | .diff k l => contains c k && !contains c l
  | .symmDiff k l => contains c k != contains c l

/-- The class of one character. -/
def only (c : Char) : CharClass := .anyOf [.range c c]

/-- Everything but the line feed. -/
def anyInLine : CharClass := .allBut (only '\n')

@[simp] theorem contains_only (c d : Char) : (only c).contains d = (d == c) := by
  simp only [only, contains, ClassItem.contains, List.any_cons, List.any_nil, Bool.or_false]
  rw [Bool.eq_iff_iff]
  simp only [Bool.and_eq_true, decide_eq_true_eq, beq_iff_eq]
  exact ⟨fun h => Char.le_antisymm h.2 h.1, fun h => h ▸ ⟨Char.le_refl d, Char.le_refl d⟩⟩

end CharClass

end SqlDialects
