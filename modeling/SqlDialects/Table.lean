/-!
# Tables

A table binds keys to values and remembers the order in which keys were first
bound.  Binding a key again replaces its value and leaves it in its place.  The
one view of a table is `find?`; each operation is described by what it does to
that, and the order of the entries only shows where a table is listed.
-/

namespace SqlDialects

/-- Keys and their values, in the order in which the keys were first bound. -/
abbrev Table (κ α : Type) := List (κ × α)

namespace Table

variable {κ α : Type} [DecidableEq κ]

/-- The value of a key. -/
def find? : Table κ α → κ → Option α
  | [], _ => none
  | (k, a) :: t, k' => if k = k' then some a else find? t k'

/-- The table with a key bound to a value. -/
def insert : Table κ α → κ → α → Table κ α
  | [], k', a' => [(k', a')]
  | (k, a) :: t, k', a' => if k = k' then (k, a') :: t else (k, a) :: insert t k' a'

/-- The table with several keys bound, one after another. -/
def insertAll (t : Table κ α) (entries : List (κ × α)) : Table κ α :=
  entries.foldl (fun t (k, a) => t.insert k a) t

/-- The table without a key. -/
def erase : Table κ α → κ → Table κ α
  | [], _ => []
  | (k, a) :: t, k' => if k = k' then erase t k' else (k, a) :: erase t k'

/-- The keys of a table, in the order in which they were first bound. -/
def keys (t : Table κ α) : List κ := t.map (·.1)

/-- Whether a key is bound. -/
def binds (t : Table κ α) (k : κ) : Bool := (t.find? k).isSome

@[simp] theorem find?_nil (k : κ) : find? ([] : Table κ α) k = none := rfl

theorem find?_insert (t : Table κ α) (k k' : κ) (a : α) :
    (t.insert k a).find? k' = if k = k' then some a else t.find? k' := by
  induction t with
  | nil => simp [insert, find?]
  | cons e t ih =>
    obtain ⟨l, b⟩ := e
    unfold insert
    split
    · subst_vars
      simp only [find?]
      split <;> rfl
    · simp only [find?, ih]
      split
      · subst_vars
        rw [if_neg (Ne.symm ‹_›)]
      · rfl

theorem find?_erase (t : Table κ α) (k k' : κ) :
    (t.erase k).find? k' = if k = k' then none else t.find? k' := by
  induction t with
  | nil => simp [erase]
  | cons e t ih =>
    obtain ⟨l, b⟩ := e
    unfold erase
    split
    · subst_vars
      rw [ih]
      split
      · rfl
      · simp [find?, *]
    · simp only [find?, ih]
      split
      · subst_vars
        rw [if_neg (Ne.symm ‹_›)]
      · rfl

/-- A key is listed when it is bound. -/
theorem mem_keys_iff (t : Table κ α) (k : κ) : k ∈ t.keys ↔ t.binds k = true := by
  induction t with
  | nil => simp [keys, binds]
  | cons e t ih =>
    obtain ⟨l, b⟩ := e
    simp only [keys, List.map_cons, List.mem_cons, binds, find?] at ih ⊢
    split
    · simp_all
    · rename_i h
      rw [← ih]
      simp [Ne.symm h]

end Table

end SqlDialects
