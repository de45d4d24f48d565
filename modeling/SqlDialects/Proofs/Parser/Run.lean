import SqlDialects.Cursor

/-!
# What a parser does at a cursor

A parser is a function of a cursor, and this file says of each primitive what the
function is: looking leaves the cursor where it is, taking moves it on by one.
After this nobody opens the monad again.

Repetition gets one equation for each way in which a round can end.  The round
that takes nothing and still goes on is the only one that stalls.
-/

namespace SqlDialects
namespace Parser

variable {α β : Type} {p : Parser α} {f : α → Parser β} {c c' : Cursor} {a : α}

/-! ## Sequences -/

theorem bind_of_ok (h : p c = .ok a c') : (p >>= f) c = f a c' := by
  show EStateM.bind p f c = _
  simp only [EStateM.bind, h]

theorem bind_of_error {e : ParseFailure} (h : p c = .error e c') :
    (p >>= f) c = .error e c' := by
  show EStateM.bind p f c = _
  simp only [EStateM.bind, h]

/-- A sequence succeeds when its two parts do, one after the other. -/
theorem bind_eq_ok {b : β} {c'' : Cursor} :
    (p >>= f) c = .ok b c'' ↔ ∃ a c', p c = .ok a c' ∧ f a c' = .ok b c'' := by
  constructor
  · intro h
    cases hp : p c with
    | ok a c' => exact ⟨a, c', rfl, by rwa [bind_of_ok hp] at h⟩
    | error e c' =>
      rw [bind_of_error hp] at h
      cases h
  · rintro ⟨a, c', hp, hf⟩
    rw [bind_of_ok hp, hf]

/-- Two sequences agree, each at its cursor, if they begin alike and go on alike from where the
beginning ends. -/
theorem bind_congr_run {q : Parser α} {g : α → Parser β} {d : Cursor} (hp : p c = q d)
    (hf : ∀ a c', p c = .ok a c' → f a c' = g a c') : (p >>= f) c = (q >>= g) d := by
  cases h : p c with
  | ok a c' =>
    rw [bind_of_ok h, bind_of_ok (hp ▸ h)]
    exact hf a c' h
  | error e c' => rw [bind_of_error h, bind_of_error (hp ▸ h)]

/-! ## Looking and moving -/

theorem peek_run (c : Cursor) : peek c = .ok c.current c := rfl

theorem peekAhead_run (n : Nat) (c : Cursor) : peekAhead n c = .ok (c.peek n) c := rfl

theorem advance_run (c : Cursor) : advance c = .ok c.current c.advance := rfl

theorem check_run (kind : TokenKind) (c : Cursor) :
    check kind c = .ok (c.current.kind == kind) c := rfl

theorem checkKeyword_run (word : String) (c : Cursor) :
    checkKeyword word c = .ok (c.current.isKeyword word) c := rfl

theorem discard_run (p : Parser α) (c : Cursor) :
    discard p c = (p >>= fun _ => pure ()) c := by
  show EStateM.map (fun _ => ()) p c = EStateM.bind p _ c
  unfold EStateM.map EStateM.bind
  cases p c <;> rfl

theorem discard_eq_ok : discard p c = .ok () c' ↔ ∃ a, p c = .ok a c' := by
  rw [discard_run, bind_eq_ok]
  constructor
  · rintro ⟨a, c₁, hp, ⟨⟩⟩
    exact ⟨a, hp⟩
  · rintro ⟨a, hp⟩
    exact ⟨a, c', hp, rfl⟩

theorem discard_advance_run (c : Cursor) : discard advance c = .ok () c.advance := rfl

theorem consume_run (kind : TokenKind) (c : Cursor) :
    consume kind c =
      if c.current.kind == kind then .ok true c.advance else .ok false c := by
  unfold consume
  rw [bind_of_ok (check_run kind c)]
  cases c.current.kind == kind <;> rfl

theorem consumeKeyword_run (word : String) (c : Cursor) :
    consumeKeyword word c =
      if c.current.isKeyword word then .ok true c.advance else .ok false c := by
  unfold consumeKeyword
  rw [bind_of_ok (checkKeyword_run word c)]
  cases c.current.isKeyword word <;> rfl

theorem unexpected_run (expected : List String) (c : Cursor) :
    (unexpected expected : Parser α) c = .error (.rejected ⟨.unexpected expected, c.current⟩) c :=
  rfl

theorem expect_run (kind : TokenKind) (expected : String) (c : Cursor) :
    expect kind expected c =
      if c.current.kind == kind then .ok c.current c.advance
      else .error (.rejected ⟨.unexpected [expected], c.current⟩) c := by
  unfold expect
  rw [bind_of_ok (check_run kind c)]
  cases c.current.kind == kind <;> rfl

theorem expectKeyword_run (word : String) (c : Cursor) :
    expectKeyword word c =
      if c.current.isKeyword word then .ok c.current c.advance
      else .error (.rejected ⟨.unexpected [word], c.current⟩) c := by
  unfold expectKeyword
  rw [bind_of_ok (checkKeyword_run word c)]
  cases c.current.isKeyword word <;> rfl

/-! ## Descending -/

section Descend

variable {outer : Cursor} {nested nested' : (c : Cursor) → c.remaining < outer.remaining → Parsed α}

theorem descend_of_lt (h : c.remaining < outer.remaining) :
    descend outer nested c = nested c h := by
  unfold descend
  rw [dif_pos h]

theorem descend_of_not_lt (h : ¬c.remaining < outer.remaining) :
    descend outer nested c = .error (.fault .stalled) c := by
  unfold descend
  rw [dif_neg h]

theorem descend_congr (h : ∀ c hc, nested c hc = nested' c hc) :
    descend outer nested = descend outer nested' := by
  congr 1
  funext c hc
  exact h c hc

end Descend

/-! ## Repeating -/

section Many

variable {item item' : Parser (Option α)}

theorem many_of_none (h : item c = .ok none c') : many item c = .ok [] c' := by
  rw [many]
  simp only [h]

theorem many_of_error {e : ParseFailure} (h : item c = .error e c') :
    many item c = .error e c' := by
  rw [many]
  simp only [h]

/-- A round that leaves fewer tokens ahead is followed by more rounds. -/
theorem many_of_some_of_ok {as : List α} {c'' : Cursor} (h : item c = .ok (some a) c')
    (hlt : c'.remaining < c.remaining) (hm : many item c' = .ok as c'') :
    many item c = .ok (a :: as) c'' := by
  rw [many]
  simp only [h, hlt, dif_pos, hm]

theorem many_of_some_of_error {e : ParseFailure} {c'' : Cursor} (h : item c = .ok (some a) c')
    (hlt : c'.remaining < c.remaining) (hm : many item c' = .error e c'') :
    many item c = .error e c'' := by
  rw [many]
  simp only [h, hlt, dif_pos, hm]

theorem many_of_stalled (h : item c = .ok (some a) c') (hlt : ¬c'.remaining < c.remaining) :
    many item c = .error (.fault .stalled) c' := by
  rw [many]
  simp only [h, hlt, dif_neg, not_false_eq_true]

/-- A round of a repetition, and those after it. -/
def manyLayer (item : Parser (Option α)) (rest : Parser (List α)) : Parser (List α) := do
  match ← item with
  | none => return []
  | some a => return a :: (← rest)

/-- The rounds after the first one are a nested parse. -/
theorem many_eq_layer (item : Parser (Option α)) (c : Cursor) :
    many item c = manyLayer item (descend c fun inner _ => many item inner) c := by
  unfold manyLayer
  cases hi : item c with
  | error e c₁ => rw [many_of_error hi, bind_of_error hi]
  | ok found c₁ =>
    rw [bind_of_ok hi]
    cases found with
    | none => exact many_of_none hi
    | some a =>
      show _ = (descend c (fun inner _ => many item inner) >>= fun as => pure (a :: as)) c₁
      by_cases hlt : c₁.remaining < c.remaining
      · have hrest : descend c (fun inner _ => many item inner) c₁ = many item c₁ :=
          descend_of_lt hlt
        cases hm : many item c₁ with
        | ok as c₂ =>
          rw [many_of_some_of_ok hi hlt hm, bind_of_ok (hrest.trans hm)]
          rfl
        | error e c₂ => rw [many_of_some_of_error hi hlt hm, bind_of_error (hrest.trans hm)]
      · rw [many_of_stalled hi hlt, bind_of_error (descend_of_not_lt hlt)]

/-- How repetition can end well: at once, or after a round and then well. -/
theorem of_many_eq_ok {as : List α} (h : many item c = .ok as c') :
    (as = [] ∧ item c = .ok none c') ∨
      ∃ a c₁ as', item c = .ok (some a) c₁ ∧ c₁.remaining < c.remaining ∧
        many item c₁ = .ok as' c' ∧ as = a :: as' := by
  cases hi : item c with
  | error e c₁ =>
    rw [many_of_error hi] at h
    cases h
  | ok found c₁ =>
    cases found with
    | none =>
      rw [many_of_none hi] at h
      cases h
      exact Or.inl ⟨rfl, rfl⟩
    | some a =>
      by_cases hlt : c₁.remaining < c.remaining
      · cases hm : many item c₁ with
        | error e c₂ =>
          rw [many_of_some_of_error hi hlt hm] at h
          cases h
        | ok as' c₂ =>
          rw [many_of_some_of_ok hi hlt hm] at h
          cases h
          exact Or.inr ⟨a, c₁, as', rfl, hlt, hm, rfl⟩
      · rw [many_of_stalled hi hlt] at h
        cases h

/-- Repetition gives a single value if one round finds it and the next round finds nothing. -/
theorem many_eq_ok_singleton {a : α} : many item c = .ok [a] c' ↔
    ∃ c₁, item c = .ok (some a) c₁ ∧ c₁.remaining < c.remaining ∧ item c₁ = .ok none c' := by
  constructor
  · intro h
    rcases of_many_eq_ok h with ⟨hnil, -⟩ | ⟨a', c₁, as, hround, hlt, hrest, heq⟩
    · cases hnil
    · obtain ⟨rfl, rfl⟩ := List.cons.inj heq
      rcases of_many_eq_ok hrest with ⟨-, hlast⟩ | ⟨_, _, _, -, -, -, hnil⟩
      · exact ⟨c₁, hround, hlt, hlast⟩
      · cases hnil
  · rintro ⟨c₁, hround, hlt, hlast⟩
    exact many_of_some_of_ok hround hlt (many_of_none hlast)

/-- An invariant of the rounds holds where repetition ends well, and the last round, which finds
nothing, begins there. -/
theorem many_induction {P : List α → Cursor → Prop} {c' : Cursor}
    (done : ∀ c, item c = .ok none c' → P [] c)
    (round : ∀ c c₁ a as, item c = .ok (some a) c₁ → many item c₁ = .ok as c' → P as c₁ →
      P (a :: as) c)
    {as : List α} (h : many item c = .ok as c') : P as c := by
  generalize hn : c.remaining = n
  induction n using Nat.strongRecOn generalizing c as with
  | ind n ih =>
    rcases of_many_eq_ok h with ⟨rfl, hi⟩ | ⟨a, c₁, as', hi, hlt, hm, rfl⟩
    · exact done c hi
    · exact round c c₁ a as' hi hm (ih c₁.remaining (hn ▸ hlt) hm rfl)

end Many

end Parser
end SqlDialects
