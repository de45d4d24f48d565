import SqlDialects.Regex.Basic

/-!
# Searching a text for a match

To ask only whether a regular expression matches somewhere in a text, one could
run it at every place of the text.  A run that turns back at every dead end may
take very long, though, and a search is not to take longer than it is worth.

## Dead ends

An expression without word anchors is decided at once, however hard it would be
to run.  One with word anchors is searched by trial, up to and including its last
part with such an anchor: wherever a choice has led to no match the search turns
back and tries the next choice, and that is one dead end.  The end of a
repetition is such a choice, and so is the place where a match begins.  What
follows that last part is decided at once again.  A search that has met
`deadEndLimit` dead ends and comes to another is given up, and counts as finding
nothing.

## Counting without running

What a trial comes to, and after how many dead ends, depends only on the place
where it stands and on the part of the expression that is left.  So instead of
making the trial, `prospects` goes over the expression once from its end, and
keeps for each place of the text what a trial from there on would come to.  The
work is the size of the expression times the length of the text, while the dead
ends that it counts may be any number.

`prospects_eq` says that this table is the trial at every place, and `finds_iff`
what the search answers: that running the expression succeeds at some place of
the text and that, if it has word anchors, the dead ends before are within the
limit.  That is what `OccursIn` says, and the search is how it is decided.
-/

namespace SqlDialects.Regex

/-- What a search from some place comes to. -/
structure Prospect where
  /-- Whether it finds a match. -/
  found : Bool
  /-- How many dead ends it meets before it does, or before it fails. -/
  deadEnds : Nat
  deriving DecidableEq, Repr

namespace Prospect

/-- No match, as can be seen at once. -/
def failure : Prospect := ⟨false, 0⟩

/-- A match, as can be seen at once. -/
def success : Prospect := ⟨true, 0⟩

/-- The one choice, and if it leads to no match the other.  To turn back in between counts as
`toll` dead ends. -/
def orElse (toll : Nat) (p q : Prospect) : Prospect :=
  if p.found then p else ⟨q.found, p.deadEnds + toll + q.deadEnds⟩

/-- The prospect on the condition that `holds`. -/
def onlyIf (holds : Bool) (p : Prospect) : Prospect := if holds then p else failure

@[simp] theorem found_orElse (toll : Nat) (p q : Prospect) :
    (p.orElse toll q).found = (p.found || q.found) := by
  cases h : p.found <;> simp [orElse, h]

@[simp] theorem found_onlyIf (holds : Bool) (p : Prospect) :
    (p.onlyIf holds).found = (holds && p.found) := by
  cases holds <;> rfl

theorem deadEnds_orElse_zero {p q : Prospect} (hp : p.deadEnds = 0) (hq : q.deadEnds = 0) :
    (p.orElse 0 q).deadEnds = 0 := by
  unfold orElse
  split <;> simp [hp, hq]

theorem deadEnds_onlyIf {p : Prospect} (holds : Bool) (hp : p.deadEnds = 0) :
    (p.onlyIf holds).deadEnds = 0 := by
  cases holds
  · rfl
  · exact hp

end Prospect

/-! ## Trials

A trial goes the way of `run`, and counts where it turns back. -/

/-- The trial of as many characters of the class as lead to a match, longest first. -/
def trialMany (toll : Nat) (k : CharClass) (next : List Char → List Char → Prospect)
    (before : List Char) : List Char → Prospect
  | [] => Prospect.failure.orElse toll (next before [])
  | c :: s =>
    ((trialMany toll k next (c :: before) s).onlyIf (k.contains c)).orElse toll
      (next before (c :: s))

/-- The trial of an expression at a place between `before`, in reverse, and `s`.  To turn back
counts as `toll` dead ends. -/
def trial (toll : Nat) :
    Regex → (next : List Char → List Char → Prospect) → (before s : List Char) → Prospect
  | .empty, next, before, s => next before s
  | .single k, next, before, s =>
    match s with
    | [] => .failure
    | c :: rest => (next (c :: before) rest).onlyIf (k.contains c)
  | .many k, next, before, s => trialMany toll k next before s
  | .seq first second, next, before, s => trial toll first (trial toll second next) before s
  | .either first second, next, before, s =>
    (trial toll first next before s).orElse toll (trial toll second next before s)
  | .optional inner, next, before, s => (trial toll inner next before s).orElse toll (next before s)
  | .anchor a, next, before, s => (next before s).onlyIf (a.holds before.head? s.head?)

/-! ## Prospects at all places -/

/-- A value for each place of the text `s` that follows `before`, in reverse: one ahead of every
character, and one at the end. -/
def atPlaces {β : Type} (f : List Char → List Char → β) (before : List Char) : List Char → List β
  | [] => [f before []]
  | c :: s => f before (c :: s) :: atPlaces f (c :: before) s

/-- The prospects of as many characters of a class as lead to a match, longest first. -/
def prospectsMany (toll : Nat) (k : CharClass) : List Char → List Prospect → List Prospect
  | c :: s, here :: after =>
    let later := prospectsMany toll k s after
    ((later.headD .failure).onlyIf (k.contains c)).orElse toll here :: later
  | [], here :: _ => [Prospect.failure.orElse toll here]
  | _, [] => []

/-- The prospects of an expression at each place of the text `s` that follows `before`, in reverse,
from those `after` it.  To turn back counts as `toll` dead ends. -/
def prospects (toll : Nat) (before s : List Char) : Regex → List Prospect → List Prospect
  | .empty, after => after
  | .single k, after =>
    List.zipWith (fun c p => p.onlyIf (k.contains c)) s after.tail ++ [.failure]
  | .many k, after => prospectsMany toll k s after
  | .seq first second, after => prospects toll before s first (prospects toll before s second after)
  | .either first second, after =>
    List.zipWith (.orElse toll) (prospects toll before s first after)
      (prospects toll before s second after)
  | .optional inner, after =>
    List.zipWith (.orElse toll) (prospects toll before s inner after) after
  | .anchor a, after =>
    List.zipWith .onlyIf (atPlaces (fun b t => a.holds b.head? t.head?) before s) after

/-- Whether an expression asks anywhere for the start or the end of a word. -/
def hasWordAnchor : Regex → Bool
  | .seq first second => hasWordAnchor first || hasWordAnchor second
  | .either first second => hasWordAnchor first || hasWordAnchor second
  | .optional inner => hasWordAnchor inner
  | .anchor .wordStart => true
  | .anchor .wordEnd => true
  | _ => false

/-- How many dead ends it counts as to turn back in an expression. -/
def toll (r : Regex) : Nat := if r.hasWordAnchor then 1 else 0

/-- The prospects of an expression at each place of a text, where what follows its last part with a
word anchor is decided at once. -/
def outlook (s : List Char) : Regex → List Prospect → List Prospect
  | .seq first second, after =>
    if second.hasWordAnchor then
      prospects 1 [] s first (outlook s second after)
    else
      outlook s first (prospects 0 [] s second after)
  | r, after => prospects r.toll [] s r after

/-- The search for a match anywhere in a text, from one place to the next. -/
def search (r : Regex) (s : List Char) : Prospect :=
  (r.outlook s (atPlaces (fun _ _ => .success) [] s)).foldr (.orElse r.toll) .failure

/-- How many dead ends a search goes through before it is given up. -/
def deadEndLimit : Nat := 1000000

/-- Whether the search finds the expression somewhere in a text, and is not given up. -/
def finds (r : Regex) (s : List Char) : Bool :=
  let p := r.search s
  p.found && p.deadEnds ≤ deadEndLimit

/-- Running the expression succeeds at some place of a text. -/
def MatchesIn (r : Regex) (s : List Char) : Prop :=
  ∃ u v, s = u ++ v ∧ (r.run (fun _ _ => some ()) u.reverse v).isSome = true

/-- The expression matches somewhere in a text; and if it has word anchors, the search for it is not
given up. -/
def OccursIn (r : Regex) (s : List Char) : Prop :=
  r.MatchesIn s ∧ (r.hasWordAnchor = true → (r.search s).deadEnds ≤ deadEndLimit)

/-! ## The table is the trial -/

section Table

variable {before s : List Char} {next : List Char → List Char → Prospect}

theorem headD_atPlaces {β : Type} (f : List Char → List Char → β) (x : β) :
    (atPlaces f before s).headD x = f before s := by
  cases s <;> rfl

theorem zipWith_atPlaces {β γ δ : Type} (g : β → γ → δ) (f : List Char → List Char → β)
    (f' : List Char → List Char → γ) :
    List.zipWith g (atPlaces f before s) (atPlaces f' before s) =
      atPlaces (fun b t => g (f b t) (f' b t)) before s := by
  induction s generalizing before with
  | nil => rfl
  | cons c s ih => simp [atPlaces, ih]

theorem prospectsMany_eq (toll : Nat) (k : CharClass) :
    prospectsMany toll k s (atPlaces next before s) =
      atPlaces (trialMany toll k next) before s := by
  induction s generalizing before with
  | nil => rfl
  | cons c s ih => simp only [atPlaces, prospectsMany, ih, headD_atPlaces, trialMany]

theorem prospects_single_eq (toll : Nat) (k : CharClass) :
    (Regex.single k).prospects toll before s (atPlaces next before s) =
      atPlaces ((Regex.single k).trial toll next) before s := by
  simp only [prospects]
  induction s generalizing before with
  | nil => rfl
  | cons c s ih =>
    simp only [atPlaces, List.tail_cons, ← ih]
    cases s <;> rfl

/-- What `prospects` keeps for a place is what the trial from that place comes to. -/
theorem prospects_eq (toll : Nat) (r : Regex) :
    r.prospects toll before s (atPlaces next before s) =
      atPlaces (r.trial toll next) before s := by
  induction r generalizing next with
  | empty => rfl
  | single k => exact prospects_single_eq toll k
  | many k => exact prospectsMany_eq toll k
  | seq first second ih₁ ih₂ => rw [prospects, ih₂, ih₁]; rfl
  | either first second ih₁ ih₂ => rw [prospects, ih₁, ih₂, zipWith_atPlaces]; rfl
  | optional inner ih => rw [prospects, ih, zipWith_atPlaces]; rfl
  | anchor a => rw [prospects, zipWith_atPlaces]; rfl

end Table

/-! ## What is found -/

section Found

variable {ρ : Type} {next : List Char → List Char → Prospect}
  {next' : List Char → List Char → Option ρ}

theorem found_trialMany (toll : Nat) (k : CharClass)
    (h : ∀ before s, (next before s).found = (next' before s).isSome) (before s : List Char) :
    (trialMany toll k next before s).found = (runMany k next' before s).isSome := by
  induction s generalizing before with
  | nil => simp [trialMany, runMany, Prospect.failure, h]
  | cons c s ih =>
    simp only [trialMany, Prospect.found_orElse, Prospect.found_onlyIf, ih, h, runMany]
    cases k.contains c
    · simp
    · cases runMany k next' (c :: before) s <;> simp

/-- A trial finds a match where running the expression does. -/
theorem found_trial (toll : Nat) (r : Regex)
    (h : ∀ before s, (next before s).found = (next' before s).isSome) (before s : List Char) :
    (r.trial toll next before s).found = (r.run next' before s).isSome := by
  induction r generalizing next next' before s with
  | empty => exact h before s
  | single k =>
    cases s with
    | nil => rfl
    | cons c s =>
      simp only [trial, Prospect.found_onlyIf, h, run]
      cases k.contains c <;> simp
  | many k => exact found_trialMany toll k h before s
  | seq first second ih₁ ih₂ => exact ih₁ (ih₂ h) before s
  | either first second ih₁ ih₂ =>
    simp only [trial, Prospect.found_orElse, ih₁ h, ih₂ h, run]
    cases run first next' before s <;> simp
  | optional inner ih =>
    simp only [trial, Prospect.found_orElse, ih h, h, run]
    cases run inner next' before s <;> simp
  | anchor a =>
    simp only [trial, Prospect.found_onlyIf, h, run]
    cases a.holds before.head? s.head? <;> simp

/-- Deciding a last part at once changes nothing about what is found. -/
theorem exists_outlook_eq (r : Regex)
    (h : ∀ before s, (next before s).found = (next' before s).isSome) (s : List Char) :
    ∃ f : List Char → List Char → Prospect,
      r.outlook s (atPlaces next [] s) = atPlaces f [] s ∧
        ∀ before t, (f before t).found = (r.run next' before t).isSome := by
  induction r generalizing next next' with
  | seq first second ih₁ ih₂ =>
    simp only [outlook]
    split
    · obtain ⟨f, hf, hfound⟩ := ih₂ h
      rw [hf, prospects_eq]
      exact ⟨_, rfl, found_trial 1 first hfound⟩
    · rw [prospects_eq]
      exact ih₁ (found_trial 0 second h)
  | _ => exact ⟨_, prospects_eq _ _, found_trial _ _ h⟩

end Found

theorem found_foldr_orElse (toll : Nat) (l : List Prospect) :
    (l.foldr (Prospect.orElse toll) Prospect.failure).found = l.any (·.found) := by
  induction l with
  | nil => rfl
  | cons p l ih => rw [List.foldr_cons, Prospect.found_orElse, ih, List.any_cons]

/-- Some place of a text is one that parts it in two. -/
theorem any_atPlaces {β : Type} (f : List Char → List Char → β) (ok : β → Bool)
    (before s : List Char) :
    (atPlaces f before s).any ok = true ↔
      ∃ u v, s = u ++ v ∧ ok (f (u.reverse ++ before) v) = true := by
  induction s generalizing before with
  | nil =>
    simp only [atPlaces, List.any_cons, List.any_nil, Bool.or_false]
    constructor
    · exact fun h => ⟨[], [], rfl, h⟩
    · rintro ⟨u, v, huv, h⟩
      obtain ⟨rfl, rfl⟩ := List.append_eq_nil_iff.1 huv.symm
      exact h
  | cons c s ih =>
    simp only [atPlaces, List.any_cons, Bool.or_eq_true, ih]
    constructor
    · rintro (h | ⟨u, v, rfl, h⟩)
      · exact ⟨[], c :: s, rfl, h⟩
      · exact ⟨c :: u, v, rfl, by simpa using h⟩
    · rintro ⟨u, v, huv, h⟩
      rcases List.cons_eq_append_iff.1 huv with ⟨rfl, rfl⟩ | ⟨u, rfl, rfl⟩
      · exact .inl h
      · exact .inr ⟨u, v, rfl, by simpa using h⟩

/-- The search comes upon a match exactly if running the expression at some place of the text
does. -/
theorem found_search_iff {r : Regex} {s : List Char} :
    (r.search s).found = true ↔ r.MatchesIn s := by
  have hnext : ∀ before t : List Char,
      ((fun _ _ => .success : List Char → List Char → Prospect) before t).found =
        ((fun _ _ => some () : List Char → List Char → Option Unit) before t).isSome :=
    fun _ _ => rfl
  obtain ⟨f, hf, hfound⟩ := exists_outlook_eq r hnext s
  rw [search, hf, found_foldr_orElse, any_atPlaces, MatchesIn]
  simp [hfound]

/-! ## Nothing counts without word anchors -/

section DeadEnds

variable {next : List Char → List Char → Prospect}

theorem deadEnds_trialMany (k : CharClass) (h : ∀ before s, (next before s).deadEnds = 0)
    (before s : List Char) : (trialMany 0 k next before s).deadEnds = 0 := by
  induction s generalizing before with
  | nil => exact Prospect.deadEnds_orElse_zero rfl (h _ _)
  | cons c s ih => exact Prospect.deadEnds_orElse_zero (Prospect.deadEnds_onlyIf _ (ih _)) (h _ _)

theorem deadEnds_trial (r : Regex) (h : ∀ before s, (next before s).deadEnds = 0)
    (before s : List Char) : (r.trial 0 next before s).deadEnds = 0 := by
  induction r generalizing next before s with
  | empty => exact h before s
  | single k =>
    cases s with
    | nil => rfl
    | cons c s => exact Prospect.deadEnds_onlyIf _ (h _ _)
  | many k => exact deadEnds_trialMany k h before s
  | seq first second ih₁ ih₂ => exact ih₁ (ih₂ h) before s
  | either first second ih₁ ih₂ =>
    exact Prospect.deadEnds_orElse_zero (ih₁ h before s) (ih₂ h before s)
  | optional inner ih => exact Prospect.deadEnds_orElse_zero (ih h before s) (h before s)
  | anchor a => exact Prospect.deadEnds_onlyIf _ (h before s)

theorem deadEnds_outlook {r : Regex} (hr : r.hasWordAnchor = false)
    (h : ∀ before s, (next before s).deadEnds = 0) (s : List Char) :
    ∃ f : List Char → List Char → Prospect,
      r.outlook s (atPlaces next [] s) = atPlaces f [] s ∧
        ∀ before t, (f before t).deadEnds = 0 := by
  induction r generalizing next with
  | seq first second ih₁ =>
    simp only [hasWordAnchor, Bool.or_eq_false_iff] at hr
    simp only [outlook, hr.2, Bool.false_eq_true, if_false, prospects_eq]
    exact ih₁ hr.1 (deadEnds_trial second h)
  | _ =>
    refine ⟨_, prospects_eq _ _, ?_⟩
    rw [toll, hr]
    exact deadEnds_trial _ h

end DeadEnds

/-- Without word anchors the search meets no dead end that counts. -/
theorem deadEnds_search {r : Regex} (hr : r.hasWordAnchor = false) (s : List Char) :
    (r.search s).deadEnds = 0 := by
  obtain ⟨f, hf, hzero⟩ := deadEnds_outlook hr (fun _ _ => rfl : ∀ before t : List Char,
    ((fun _ _ => .success : List Char → List Char → Prospect) before t).deadEnds = 0) s
  rw [search, hf, toll, hr]
  clear hf
  generalize ([] : List Char) = before
  induction s generalizing before with
  | nil => exact Prospect.deadEnds_orElse_zero (hzero _ _) rfl
  | cons c s ih => exact Prospect.deadEnds_orElse_zero (hzero _ _) (ih _)

/-! ## Deciding by the search -/

/-- **What the search answers**: whether the expression occurs. -/
theorem finds_iff {r : Regex} {s : List Char} : r.finds s = true ↔ r.OccursIn s := by
  have hlimit : (r.search s).deadEnds ≤ deadEndLimit ↔
      (r.hasWordAnchor = true → (r.search s).deadEnds ≤ deadEndLimit) := by
    cases hr : r.hasWordAnchor with
    | true => simp
    | false => simp [deadEnds_search hr]
  rw [finds, Bool.and_eq_true, decide_eq_true_eq, found_search_iff, hlimit, OccursIn]

instance (r : Regex) (s : List Char) : Decidable (r.OccursIn s) := decidable_of_iff _ finds_iff

end SqlDialects.Regex
