import SqlDialects.Note

/-!
# Computations that leave notes

A traced computation ends in a value or an error, and either way keeps the notes
made up to there.  Sequencing joins the notes; the outcome alone is an ordinary
computation with errors, so a statement about outcomes never has to speak of
notes.
-/

namespace SqlDialects

/-- A value or an error, and the notes made on the way. -/
structure Traced (ε α : Type) where
  notes : List Note := []
  outcome : Except ε α

namespace Traced

variable {ε α β : Type}

/-- An error, without notes. -/
def fail (e : ε) : Traced ε α := ⟨[], .error e⟩

/-- A note. -/
def note (n : Note) : Traced ε Unit := ⟨[n], .ok ()⟩

/-- What an ordinary computation with errors gives, without notes. -/
def ofExcept (x : Except ε α) : Traced ε α := ⟨[], x⟩

/-- Goes on with the value of a computation, if it has one. -/
def andThen (x : Traced ε α) (next : α → Traced ε β) : Traced ε β :=
  match x.outcome with
  | .ok a => ⟨x.notes ++ (next a).notes, (next a).outcome⟩
  | .error e => ⟨x.notes, .error e⟩

instance : Monad (Traced ε) where
  pure a := ⟨[], .ok a⟩
  bind := andThen

/-- The computation with its error changed. -/
def mapError {δ : Type} (f : ε → δ) (x : Traced ε α) : Traced δ α :=
  ⟨x.notes, x.outcome.mapError f⟩

@[simp] theorem outcome_mapError {δ : Type} (f : ε → δ) (x : Traced ε α) :
    (x.mapError f).outcome = x.outcome.mapError f := rfl

/-- The outcome of a sequence is the sequence of the outcomes. -/
@[simp] theorem outcome_bind (x : Traced ε α) (next : α → Traced ε β) :
    (x >>= next).outcome = x.outcome >>= fun a => (next a).outcome := by
  show (andThen x next).outcome = _
  unfold andThen
  cases x.outcome <;> rfl

end Traced

end SqlDialects
