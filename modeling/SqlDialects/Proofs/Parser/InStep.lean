import SqlDialects.Proofs.Parser.Run

/-!
# Two runs of a parser

How much of its input does a parser see?  One way to say it is to run it twice, on
inputs that differ only in what it should not see, and to show that the two runs
go in step: they look at tokens that are alike, take as many, and come to the same
value, or are rejected for the same cause at tokens that are alike.

A `Pairing` says which cursors count as the same and which tokens, and which laws
that takes.  It asks little of the tokens: their kinds and, up to the case of
keywords, their texts have to agree, and even that is not asked of two tokens that
both end a statement, a semicolon and the end.  In return nothing is promised about
steps past such a token.  `Pairing.InStep` is the judgement, with one rule for each
way of putting parsers together; the second parser may be another one than the
first, because nested parsers depend on the cursor that they were made at.

## The horizon

Two inputs may be the same for a while only.  Then the second run is followed as long
as enough tokens are ahead in the first, as many as the horizon of the pairing says.
When fewer are, nothing is known of the second run any more; but the first one can not
come back, so wherever it stops, it shows that it went too far (`Pairing.Strayed`).
Most pairings hold for whole inputs.  Their horizon is zero, no run strays, and the two
runs do come to the same (`InStep.run`).
-/

namespace SqlDialects

/-! ## Tokens that look alike -/

/-- Whether a token of a kind ends a statement. -/
def TokenKind.endsStatement : TokenKind → Bool
  | .semicolon | .endOfFile => true
  | _ => false

theorem TokenKind.endsStatement_iff {k : TokenKind} :
    k.endsStatement = true ↔ k = .semicolon ∨ k = .endOfFile := by
  cases k <;> decide

namespace Token

/-- Two tokens that the grammar cannot tell apart: they differ at most in their places and in the
case in which a keyword is written. -/
structure Matches (t t' : Token) : Prop where
  kind : t'.kind = t.kind
  key : t'.key = t.key
  text : t.kind ≠ .keyword → t'.text = t.text

/-- Two tokens that the grammar cannot tell apart inside a statement. -/
def Alike (t t' : Token) : Prop :=
  t.Matches t' ∨ t.kind.endsStatement = true ∧ t'.kind.endsStatement = true

variable {t t' : Token}

theorem Alike.matches_of (h : t.Alike t') (ht : t.kind.endsStatement = false) : t.Matches t' := by
  rcases h with h | h
  · exact h
  · rw [ht] at h
    cases h.1

theorem Alike.beq_kind (h : t.Alike t') {kind : TokenKind} (hkind : kind.endsStatement = false) :
    (t'.kind == kind) = (t.kind == kind) := by
  rcases h with h | ⟨ht, ht'⟩
  · rw [h.kind]
  · have hne : ∀ k : TokenKind, k.endsStatement = true → (k == kind) = false := by
      rintro k hk
      rw [beq_eq_false_iff_ne]
      rintro rfl
      rw [hkind] at hk
      cases hk
    rw [hne _ ht, hne _ ht']

theorem Alike.isKeyword (h : t.Alike t') (word : String) :
    t'.isKeyword word = t.isKeyword word := by
  have hkind : (t'.kind == .keyword) = (t.kind == .keyword) := h.beq_kind rfl
  unfold Token.isKeyword
  rw [hkind]
  cases hkeyword : t.kind == .keyword with
  | false => rfl
  | true =>
    have hmatches := h.matches_of (by rw [beq_iff_eq.1 hkeyword]; rfl)
    show (t'.key == word.toUpper) = (t.key == word.toUpper)
    rw [hmatches.key]

theorem Matches.isKeyword (h : t.Matches t') (word : String) :
    t'.isKeyword word = t.isKeyword word :=
  Alike.isKeyword (Or.inl h) word

/-- A keyword does not end a statement. -/
theorem endsStatement_of_isKeyword {word : String} (h : t.isKeyword word = true) :
    t.kind.endsStatement = false := by
  unfold Token.isKeyword at h
  rw [Bool.and_eq_true] at h
  rw [beq_iff_eq.1 h.1]
  rfl

end Token

/-! ## Pairings -/

/-- Which tokens and which cursors are the same for two runs, and for how long. -/
structure Pairing where
  tokens : Token → Token → Prop
  cursors : Cursor → Cursor → Prop
  /-- How many more tokens are ahead in the second run; fewer, if it is negative. -/
  surplus : Int
  /-- How many tokens have to be ahead in the first run for the second one to be followed. -/
  horizon : Nat := 0
  alike {t t' : Token} : tokens t t' → t.Alike t'
  current {c c' : Cursor} : cursors c c' → tokens c.current c'.current
  next {c c' : Cursor} :
    cursors c c' → c.current.kind.endsStatement = false → tokens (c.peek 1) (c'.peek 1)
  advance {c c' : Cursor} : cursors c c' → c.current.kind.endsStatement = false →
    horizon ≤ c.advance.remaining → cursors c.advance c'.advance
  remaining {c c' : Cursor} : cursors c c' → (c'.remaining : Int) = c.remaining + surplus
  note {c c' : Cursor} (ms ms' : List Note) :
    cursors c c' → cursors { c with notes := ms } { c' with notes := ms' }
  /-- Cursors are the same only as long as the second run is followed. -/
  followed {c c' : Cursor} : cursors c c' → horizon ≤ c.remaining := by
    exact fun _ => Nat.zero_le _
  /-- Where the second run may be left, every token is the same as some token. -/
  partner (t : Token) : 0 < horizon → ∃ t', tokens t t' := by
    exact fun _ h => absurd h (Nat.lt_irrefl 0)

namespace Pairing

variable (P : Pairing) {α β : Type}

/-- Two runs come to the same: values that `V` relates, or the same rejection or fault, and either
way cursors that are the same. -/
inductive Same (V : α → α → Prop) : Parsed α → Parsed α → Prop where
  | ok {a a' : α} {c c' : Cursor} (ha : V a a') (hc : P.cursors c c') :
    Same V (.ok a c) (.ok a' c')
  | rejected {cause : ParseError.Cause} {t t' : Token} {c c' : Cursor} (ht : P.tokens t t')
    (hc : P.cursors c c') :
    Same V (.error (.rejected ⟨cause, t⟩) c) (.error (.rejected ⟨cause, t'⟩) c')
  | fault {f : Fault} {c c' : Cursor} (hc : P.cursors c c') :
    Same V (.error (.fault f) c) (.error (.fault f) c')

/-- A run has gone too far for the second one to be followed.  If it gave a value, that is still one
which the second run might have given. -/
inductive Strayed (V : α → α → Prop) : Parsed α → Prop where
  | ok {a a' : α} {c : Cursor} (ha : V a a') (hc : c.remaining < P.horizon) : Strayed V (.ok a c)
  | error {e : ParseFailure} {c : Cursor} (hc : c.remaining < P.horizon) : Strayed V (.error e c)

/-- Two runs come to the same, unless the first has strayed. -/
abbrev Followed (V : α → α → Prop) (x x' : Parsed α) : Prop := P.Same V x x' ∨ P.Strayed V x

/-- Without a horizon nothing strays. -/
theorem not_strayed {V : α → α → Prop} {x : Parsed α} (hP : P.horizon = 0) : ¬P.Strayed V x := by
  rintro (⟨-, hlt⟩ | hlt) <;>
  · rw [hP] at hlt
    exact Nat.not_lt_zero _ hlt

theorem Same.mono {P : Pairing} {V W : α → α → Prop} {x x' : Parsed α} (h : P.Same V x x')
    (hVW : ∀ a a', V a a' → W a a') : P.Same W x x' := by
  cases h with
  | ok ha hc => exact .ok (hVW _ _ ha) hc
  | rejected ht hc => exact .rejected ht hc
  | fault hc => exact .fault hc

theorem Strayed.mono {P : Pairing} {V W : α → α → Prop} {x : Parsed α} (h : P.Strayed V x)
    (hVW : ∀ a a', V a a' → W a a') : P.Strayed W x := by
  cases h with
  | ok ha hc => exact .ok (hVW _ _ ha) hc
  | error hc => exact .error hc

/-- From cursors that are the same two parsers come to the same, as far as the second can be
followed; and the first one does not come back from where it can not. -/
structure InStep (V : α → α → Prop) (p p' : Parser α) : Prop where
  same {c c' : Cursor} : P.cursors c c' → P.Followed V (p c) (p' c')
  strayed {c : Cursor} : c.remaining < P.horizon → P.Strayed V (p c)

/-- The same of two parsers on cursors that stand on given tokens. -/
structure InStepAt (t t' : Token) (V : α → α → Prop) (p p' : Parser α) : Prop where
  same {c c' : Cursor} :
    P.cursors c c' → c.current = t → c'.current = t' → P.Followed V (p c) (p' c')
  strayed {c : Cursor} : c.remaining < P.horizon → c.current = t → P.Strayed V (p c)

/-- Progress is the same in both runs. -/
theorem remaining_lt_iff {c c' e e' : Cursor} (hc : P.cursors c c') (he : P.cursors e e') :
    e'.remaining < c'.remaining ↔ e.remaining < c.remaining := by
  have hc' := P.remaining hc
  have he' := P.remaining he
  omega

/-- A run that has strayed moves on and has still strayed. -/
theorem strayed_advance {c : Cursor} (h : c.remaining < P.horizon) :
    c.advance.remaining < P.horizon :=
  Nat.lt_of_le_of_lt c.remaining_advance_le h

namespace InStep

variable {P} {V : α → α → Prop} {U : β → β → Prop} {p p' : Parser α} {f f' : α → Parser β}
  {t t' : Token} {c c' : Cursor}

/-! ## Pairings of whole inputs -/

/-- Where there is no horizon, two runs come to the same. -/
theorem run (h : P.InStep V p p') (hP : P.horizon = 0) (hc : P.cursors c c') :
    P.Same V (p c) (p' c') :=
  (h.same hc).resolve_right (P.not_strayed hP)

/-- Where there is no horizon, it is enough to come to the same. -/
theorem of_run (hP : P.horizon = 0) (h : ∀ c c', P.cursors c c' → P.Same V (p c) (p' c')) :
    P.InStep V p p' where
  same hc := Or.inl (h _ _ hc)
  strayed hlt := by
    rw [hP] at hlt
    exact absurd hlt (Nat.not_lt_zero _)

/-! ## Sequences -/

theorem pure {a a' : α} (ha : V a a') :
    P.InStep V (Pure.pure a : Parser α) (Pure.pure a' : Parser α) :=
  ⟨fun hc => .inl (.ok ha hc), fun hlt => .ok ha hlt⟩

theorem fault (x : Fault) (V : α → α → Prop) : P.InStep V
    (MonadExcept.throw (ParseFailure.fault x) : Parser α)
    (MonadExcept.throw (ParseFailure.fault x) : Parser α) :=
  ⟨fun hc => .inl (.fault hc), fun hlt => .error hlt⟩

theorem mono {W : α → α → Prop} (h : P.InStep V p p') (hVW : ∀ a a', V a a' → W a a') :
    P.InStep W p p' :=
  ⟨fun hc => (h.same hc).imp (·.mono hVW) (·.mono hVW), fun hlt => (h.strayed hlt).mono hVW⟩

/-- A run that has strayed goes on and has still strayed. -/
theorem strayed_bind (hp : P.Strayed V (p c))
    (hf : ∀ a a', V a a' → P.InStep U (f a) (f' a')) : P.Strayed U ((p >>= f) c) := by
  revert hp
  generalize hx : p c = x
  rintro (⟨ha, hlt⟩ | hlt)
  · rw [Parser.bind_of_ok hx]
    exact (hf _ _ ha).strayed hlt
  · rw [Parser.bind_of_error hx]
    exact .error hlt

theorem bind (hp : P.InStep V p p') (hf : ∀ a a', V a a' → P.InStep U (f a) (f' a')) :
    P.InStep U (p >>= f) (p' >>= f') := by
  refine ⟨fun {c c'} hc => ?_, fun hlt => strayed_bind (hp.strayed hlt) hf⟩
  rcases hp.same hc with hsame | hstrayed
  · revert hsame
    generalize hx : p c = x
    generalize hx' : p' c' = x'
    rintro (⟨ha, hc₁⟩ | ⟨ht, hc₁⟩ | hc₁)
    · rw [Parser.bind_of_ok hx, Parser.bind_of_ok hx']
      exact (hf _ _ ha).same hc₁
    · rw [Parser.bind_of_error hx, Parser.bind_of_error hx']
      exact .inl (.rejected ht hc₁)
    · rw [Parser.bind_of_error hx, Parser.bind_of_error hx']
      exact .inl (.fault hc₁)
  · exact .inr (strayed_bind hstrayed hf)

/-- Where the values are equal, the parsers go on from one value. -/
theorem bind_eq (hp : P.InStep Eq p p') (hf : ∀ a, P.InStep U (f a) (f' a)) :
    P.InStep U (p >>= f) (p' >>= f') :=
  hp.bind fun a _ ha => ha ▸ hf a

theorem discard_bind {q q' : Parser β} (hp : P.InStep V p p') (hq : P.InStep U q q') :
    P.InStep U (Functor.discard p >>= fun _ => q) (Functor.discard p' >>= fun _ => q') := by
  have hdiscard : P.InStep (fun _ _ : Unit => True) (Functor.discard p) (Functor.discard p') := by
    rw [show Functor.discard p = _ from funext (Parser.discard_run p),
      show Functor.discard p' = _ from funext (Parser.discard_run p')]
    exact hp.bind fun _ _ _ => InStep.pure trivial
  exact hdiscard.bind fun _ _ _ => hq

/-! ## Looking and moving -/

theorem at_of (h : P.InStep V p p') : P.InStepAt t t' V p p' :=
  ⟨fun hc _ _ => h.same hc, fun hlt _ => h.strayed hlt⟩

/-- Two parsers that look go on with the cursors on the tokens that they have seen: tokens that the
grammar cannot tell apart, or an end for both. -/
theorem peek_bind {f f' : Token → Parser β}
    (hmatches : ∀ t t', P.tokens t t' → t.Matches t' → P.InStepAt t t' U (f t) (f' t'))
    (hends : ∀ t t', t.kind = .semicolon ∨ t.kind = .endOfFile →
      t'.kind = .semicolon ∨ t'.kind = .endOfFile → P.InStep U (f t) (f' t')) :
    P.InStep U (Parser.peek >>= f) (Parser.peek >>= f') := by
  have hlooks : ∀ t t', P.tokens t t' → P.InStepAt t t' U (f t) (f' t') := by
    intro t t' ht
    rcases P.alike ht with h | ⟨h, h'⟩
    · exact hmatches t t' ht h
    · exact (hends t t' (TokenKind.endsStatement_iff.1 h) (TokenKind.endsStatement_iff.1 h')).at_of
  constructor
  · intro c c' hc
    rw [Parser.bind_of_ok (Parser.peek_run c), Parser.bind_of_ok (Parser.peek_run c')]
    exact (hlooks _ _ (P.current hc)).same hc rfl rfl
  · intro c hlt
    obtain ⟨t', ht⟩ := P.partner c.current (Nat.zero_lt_of_lt hlt)
    rw [Parser.bind_of_ok (Parser.peek_run c)]
    exact (hlooks _ _ ht).strayed hlt rfl

/-- Two runs that move on are followed for as long as the pairing goes. -/
theorem same_advance (h : P.InStep V p p') (hc : P.cursors c c')
    (hends : c.current.kind.endsStatement = false) :
    P.Followed V (p c.advance) (p' c'.advance) := by
  rcases Nat.lt_or_ge c.advance.remaining P.horizon with hlt | hge
  · exact .inr (h.strayed hlt)
  · exact h.same (P.advance hc hends hge)

theorem advance_bind_at {f f' : Token → Parser β} (ht : t.kind.endsStatement = false)
    (h : P.InStep U (f t) (f' t')) :
    P.InStepAt t t' U (Parser.advance >>= f) (Parser.advance >>= f') := by
  constructor
  · rintro c c' hc rfl rfl
    rw [Parser.bind_of_ok (Parser.advance_run c), Parser.bind_of_ok (Parser.advance_run c')]
    exact h.same_advance hc ht
  · rintro c hlt rfl
    rw [Parser.bind_of_ok (Parser.advance_run c)]
    exact h.strayed (P.strayed_advance hlt)

theorem discard_advance_bind_at {q q' : Parser β} (ht : t.kind.endsStatement = false)
    (h : P.InStep U q q') :
    P.InStepAt t t' U (Functor.discard Parser.advance >>= fun _ => q)
      (Functor.discard Parser.advance >>= fun _ => q') := by
  constructor
  · rintro c c' hc rfl rfl
    rw [Parser.bind_of_ok (Parser.discard_advance_run c),
      Parser.bind_of_ok (Parser.discard_advance_run c')]
    exact h.same_advance hc ht
  · rintro c hlt rfl
    rw [Parser.bind_of_ok (Parser.discard_advance_run c)]
    exact h.strayed (P.strayed_advance hlt)

theorem peekAhead_bind_at {f f' : Token → Parser β} (ht : t.kind.endsStatement = false)
    (h : ∀ m m', P.tokens m m' → P.InStep U (f m) (f' m')) :
    P.InStepAt t t' U (Parser.peekAhead 1 >>= f) (Parser.peekAhead 1 >>= f') := by
  constructor
  · rintro c c' hc rfl rfl
    rw [Parser.bind_of_ok (Parser.peekAhead_run 1 c), Parser.bind_of_ok (Parser.peekAhead_run 1 c')]
    exact (h _ _ (P.next hc ht)).same hc
  · rintro c hlt rfl
    obtain ⟨m', hm⟩ := P.partner (c.peek 1) (Nat.zero_lt_of_lt hlt)
    rw [Parser.bind_of_ok (Parser.peekAhead_run 1 c)]
    exact (h _ _ hm).strayed hlt

theorem note_bind {q q' : Parser β} (m m' : Note) (h : P.InStep U q q') :
    P.InStep U (Parser.note m >>= fun _ => q) (Parser.note m' >>= fun _ => q') :=
  ⟨fun hc => h.same (P.note _ _ hc), fun {c} hlt =>
    h.strayed (c := { c with notes := c.notes ++ [m] }) hlt⟩

theorem checkKeyword_bind {word : String} {f f' : Bool → Parser β}
    (h : ∀ found, P.InStep U (f found) (f' found)) :
    P.InStep U (Parser.checkKeyword word >>= f) (Parser.checkKeyword word >>= f') := by
  constructor
  · intro c c' hc
    rw [Parser.bind_of_ok (Parser.checkKeyword_run word c),
      Parser.bind_of_ok (Parser.checkKeyword_run word c'), (P.alike (P.current hc)).isKeyword]
    exact (h _).same hc
  · intro c hlt
    rw [Parser.bind_of_ok (Parser.checkKeyword_run word c)]
    exact (h _).strayed hlt

/-- Two parsers that look at a second token where they have found a first one. -/
theorem check_peekAhead_bind {kind : TokenKind} {f f' : Bool → Token → Parser β}
    (hkind : kind.endsStatement = false)
    (hfound : ∀ t t' next next', t.kind = kind → P.tokens next next' →
      P.InStepAt t t' U (f true next) (f' true next'))
    (hnot : ∀ next next', P.InStep U (f false next) (f' false next')) :
    P.InStep U (Parser.check kind >>= fun found => Parser.peekAhead 1 >>= f found)
      (Parser.check kind >>= fun found => Parser.peekAhead 1 >>= f' found) := by
  constructor
  · intro c c' hc
    rw [Parser.bind_of_ok (Parser.check_run kind c), Parser.bind_of_ok (Parser.check_run kind c'),
      Parser.bind_of_ok (Parser.peekAhead_run 1 c), Parser.bind_of_ok (Parser.peekAhead_run 1 c'),
      (P.alike (P.current hc)).beq_kind hkind]
    cases hfirst : c.current.kind == kind with
    | true =>
      have hfirst := beq_iff_eq.1 hfirst
      have hnext := P.next hc (by rw [hfirst]; exact hkind)
      exact (hfound _ _ _ _ hfirst hnext).same hc rfl rfl
    | false => exact (hnot _ _).same hc
  · intro c hlt
    rw [Parser.bind_of_ok (Parser.check_run kind c), Parser.bind_of_ok (Parser.peekAhead_run 1 c)]
    obtain ⟨next', hnext⟩ := P.partner (c.peek 1) (Nat.zero_lt_of_lt hlt)
    cases hfirst : c.current.kind == kind with
    | true => exact (hfound _ c.current _ _ (beq_iff_eq.1 hfirst) hnext).strayed hlt rfl
    | false => exact (hnot _ next').strayed hlt

theorem consume {kind : TokenKind} (hkind : kind.endsStatement = false) :
    P.InStep Eq (Parser.consume kind) (Parser.consume kind) := by
  constructor
  · intro c c' hc
    rw [Parser.consume_run, Parser.consume_run, (P.alike (P.current hc)).beq_kind hkind]
    split
    · rename_i hfound
      refine (InStep.pure (a := true) rfl).same_advance hc ?_
      rw [beq_iff_eq.1 hfound]
      exact hkind
    · exact .inl (.ok rfl hc)
  · intro c hlt
    rw [Parser.consume_run]
    split
    · exact .ok rfl (P.strayed_advance hlt)
    · exact .ok rfl hlt

theorem consumeKeyword (word : String) :
    P.InStep Eq (Parser.consumeKeyword word) (Parser.consumeKeyword word) := by
  constructor
  · intro c c' hc
    rw [Parser.consumeKeyword_run, Parser.consumeKeyword_run,
      (P.alike (P.current hc)).isKeyword]
    split
    · rename_i hfound
      exact (InStep.pure (a := true) rfl).same_advance hc (Token.endsStatement_of_isKeyword hfound)
    · exact .inl (.ok rfl hc)
  · intro c hlt
    rw [Parser.consumeKeyword_run]
    split
    · exact .ok rfl (P.strayed_advance hlt)
    · exact .ok rfl hlt

/-! ## Rejecting -/

theorem unexpected (expected : List String) (V : α → α → Prop) :
    P.InStep V (Parser.unexpected expected) (Parser.unexpected expected) :=
  ⟨fun hc => .inl (.rejected (P.current hc) hc), fun hlt => .error hlt⟩

/-- What is built from the arguments of two calls that go by the same name. -/
theorem built {name name' : Token} (hname : P.tokens name name') (x : Except ArgumentError α) :
    P.InStep Eq (Parser.built name x) (Parser.built name' x) := by
  cases x with
  | ok a => exact InStep.pure rfl
  | error reason => exact ⟨fun hc => .inl (.rejected hname hc), fun hlt => .error hlt⟩

theorem expect {kind : TokenKind} (hkind : kind.endsStatement = false) (expected : String) :
    P.InStep (fun t t' => P.tokens t t' ∧ t.kind = kind) (Parser.expect kind expected)
      (Parser.expect kind expected) := by
  constructor
  · intro c c' hc
    rw [Parser.expect_run, Parser.expect_run, (P.alike (P.current hc)).beq_kind hkind]
    split
    · rename_i hfound
      have hfound := beq_iff_eq.1 hfound
      refine (InStep.pure ⟨P.current hc, hfound⟩).same_advance hc ?_
      rw [hfound]
      exact hkind
    · exact .inl (.rejected (P.current hc) hc)
  · intro c hlt
    obtain ⟨t', ht⟩ := P.partner c.current (Nat.zero_lt_of_lt hlt)
    rw [Parser.expect_run]
    split
    · rename_i hfound
      exact .ok ⟨ht, beq_iff_eq.1 hfound⟩ (P.strayed_advance hlt)
    · exact .error hlt

theorem expectKeyword (word : String) :
    P.InStep P.tokens (Parser.expectKeyword word) (Parser.expectKeyword word) := by
  constructor
  · intro c c' hc
    rw [Parser.expectKeyword_run, Parser.expectKeyword_run, (P.alike (P.current hc)).isKeyword]
    split
    · rename_i hfound
      exact (InStep.pure (P.current hc)).same_advance hc (Token.endsStatement_of_isKeyword hfound)
    · exact .inl (.rejected (P.current hc) hc)
  · intro c hlt
    obtain ⟨t', ht⟩ := P.partner c.current (Nat.zero_lt_of_lt hlt)
    rw [Parser.expectKeyword_run]
    split
    · exact .ok ht (P.strayed_advance hlt)
    · exact .error hlt

/-! ## Descending -/

section Descending

/-- Nested parsers do not come back from where they have strayed, if the parser itself does not. -/
theorem strayed_descend {outer e : Cursor}
    (h : ∀ e, e.remaining < outer.remaining → e.remaining < P.horizon → P.Strayed V (p e))
    (hlt : e.remaining < P.horizon) :
    P.Strayed V (Parser.descend outer (fun inner _ => p inner) e) := by
  by_cases hinner : e.remaining < outer.remaining
  · rw [Parser.descend_of_lt hinner]
    exact h e hinner hlt
  · rw [Parser.descend_of_not_lt hinner]
    exact .error hlt

variable {ι : Type} {q r : ι → Parser α} {l m : (ι → Parser α) → ι → Parser α}

/-- A run that has strayed does not look at a second one, which may just as well stall wherever it
is asked to go deeper. -/
theorem strayed_of_descend
    (hq : ∀ i c, q i c = l (fun j => Parser.descend c fun inner _ => q j inner) i c)
    (h : ∀ nested nested', (∀ j, P.InStep Eq (nested j) (nested' j)) →
      ∀ i, P.InStep Eq (l nested i) (m nested' i))
    (i : ι) {c : Cursor} (hlt : c.remaining < P.horizon) : P.Strayed Eq (q i c) := by
  generalize hk : c.remaining = k
  induction k using Nat.strongRecOn generalizing c i with
  | ind k ih =>
    have hstalled : ∀ j, P.InStep Eq (Parser.descend c fun inner _ => q j inner)
        (throw (.fault .stalled)) := fun j =>
      { same := fun {e e'} he => by
          have hahead := P.followed he
          rw [Parser.descend_of_not_lt (by omega)]
          exact .inl (.fault he)
        strayed := strayed_descend fun e hinner hlt => ih e.remaining (hk ▸ hinner) j hlt rfl }
    rw [hq i c]
    exact (h _ _ hstalled i).strayed hlt

/-- A family of parsers is in step, if it is so wherever its nested parsers are.  The two runs make
their nested parsers at cursors of their own. -/
theorem of_descend
    (hq : ∀ i c, q i c = l (fun j => Parser.descend c fun inner _ => q j inner) i c)
    (hr : ∀ i c, r i c = m (fun j => Parser.descend c fun inner _ => r j inner) i c)
    (h : ∀ nested nested', (∀ j, P.InStep Eq (nested j) (nested' j)) →
      ∀ i, P.InStep Eq (l nested i) (m nested' i)) (i : ι) :
    P.InStep Eq (q i) (r i) := by
  have hstrayed := strayed_of_descend hq h
  refine ⟨fun {c c'} hc => ?_, hstrayed i⟩
  generalize hk : c.remaining = k
  induction k using Nat.strongRecOn generalizing c c' i with
  | ind k ih =>
    have hnested : ∀ j, P.InStep Eq (Parser.descend c fun inner _ => q j inner)
        (Parser.descend c' fun inner _ => r j inner) := fun j =>
      { same := fun {e e'} he => by
          by_cases hinner : e.remaining < c.remaining
          · rw [Parser.descend_of_lt hinner,
              Parser.descend_of_lt ((P.remaining_lt_iff hc he).2 hinner)]
            exact ih e.remaining (hk ▸ hinner) j he rfl
          · rw [Parser.descend_of_not_lt hinner,
              Parser.descend_of_not_lt (mt (P.remaining_lt_iff hc he).1 hinner)]
            exact .inl (.fault he)
        strayed := strayed_descend fun e _ => hstrayed j }
    rw [hq i c, hr i c']
    exact (h _ _ hnested i).same hc

end Descending

/-! ## Repeating -/

/-- Repetition descends as well, with the rounds that are left for a nested parser. -/
theorem many {item item' : Parser (Option α)} (h : P.InStep Eq item item') :
    P.InStep Eq (Parser.many item) (Parser.many item') := by
  refine of_descend (q := fun _ : Unit => Parser.many item)
    (r := fun _ : Unit => Parser.many item')
    (l := fun rest _ => Parser.manyLayer item (rest ()))
    (m := fun rest _ => Parser.manyLayer item' (rest ()))
    (fun _ c => Parser.many_eq_layer item c) (fun _ c => Parser.many_eq_layer item' c)
    (fun rest rest' hrest _ => ?_) ()
  refine h.bind_eq fun found => ?_
  cases found with
  | none => exact InStep.pure rfl
  | some a => exact (hrest ()).bind_eq fun as => InStep.pure rfl

theorem csv {item item' : Parser α} (h : P.InStep Eq item item') :
    P.InStep Eq (Parser.csv item) (Parser.csv item') := by
  refine h.bind_eq fun first => ?_
  refine (many ((consume rfl).bind_eq fun found => ?_)).bind_eq fun rest => InStep.pure rfl
  cases found with
  | true => exact h.bind_eq fun a => InStep.pure rfl
  | false => exact InStep.pure rfl

theorem csvToEndBracket {item item' : Parser α} (h : P.InStep Eq item item') :
    P.InStep Eq (Parser.csvToEndBracket item) (Parser.csvToEndBracket item') := by
  refine (consume rfl).bind_eq fun closed => ?_
  cases closed with
  | true => exact InStep.pure rfl
  | false =>
    refine (csv h).bind_eq fun items => (consume rfl).bind_eq fun closed => ?_
    cases closed with
    | true => exact InStep.pure rfl
    | false => exact InStep.unexpected _ _

end InStep
end Pairing
end SqlDialects
