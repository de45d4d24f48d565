import SqlDialects.Proofs.Lexing.Intact
import SqlDialects.Proofs.Parser.StatementsInStep

/-!
# Parsers that get on

Two things can stop a parser other than tokens that it rejects: a literal that is too
short for its quotes or its mark, and a round of a repetition, or a nested parse, that
would begin where the last one began.  The first is a matter of the single token
(`Lexeme.Intact`): on the tokens of a text it does not happen, and elsewhere there is a
token to blame.  The second is one of counting, and happens on no tokens at all: every
form of the grammar takes a token before it repeats itself or descends into itself.

`Proceeds G limit p taken` says this of a parser among tokens of which each has `G`.
From wherever fewer than `limit` of them are ahead it comes to a value, rejects, or finds
a literal broken; it only ever moves towards the end, and not past one; and it has moved
on if its value is one of `taken`.  The limit is what carries the argument through nested
parsers, which proceed only from places further on than the one where they were made:
a parser that has taken its first token may hand its work to parsers that proceed under
a limit lower by one (`Proceeds.bind_taken`), and `Proceeds.of_descend` closes the
circle.
-/

namespace SqlDialects

namespace Cursor

/-- A cursor among tokens with a property, of which the last is the end. -/
structure Among (G : Token → Prop) (c : Cursor) : Prop where
  tokens : ∀ t ∈ c.tokens, G t
  ends : c.tokens.getLast?.map Token.kind = some .endOfFile

/-- A cursor among intact tokens, of which the last is the end. -/
abbrev Intact (c : Cursor) : Prop := c.Among (·.lexeme.Intact)

/-- A cursor may come to another: that is further on, and no end lies between the two. -/
def Reaches (c c' : Cursor) : Prop :=
  ∃ passed, c.tokens = passed ++ c'.tokens ∧ ∀ t ∈ passed, t.kind ≠ .endOfFile

variable {G : Token → Prop} {c c' c'' : Cursor}

/-! ## Moving on -/

theorem Reaches.refl (c : Cursor) : c.Reaches c := ⟨[], rfl, nofun⟩

theorem Reaches.trans (h : c.Reaches c') (h' : c'.Reaches c'') : c.Reaches c'' := by
  obtain ⟨passed, htokens, hpassed⟩ := h
  obtain ⟨passed', htokens', hpassed'⟩ := h'
  refine ⟨passed ++ passed', ?_, List.forall_mem_append.2 ⟨hpassed, hpassed'⟩⟩
  rw [htokens, htokens', List.append_assoc]

theorem reaches_advance (c : Cursor) : c.Reaches c.advance := by
  by_cases hend : c.current.kind = .endOfFile
  · rw [show c.advance = c from if_pos hend]
    exact .refl c
  · cases hahead : c.ahead with
    | nil =>
      have hstays : c.advance = c := by
        unfold Cursor.advance
        rw [if_neg hend, hahead]
      rw [hstays]
      exact .refl c
    | cons next rest =>
      have htokens : c.tokens = c.current :: next :: rest := congrArg (c.current :: ·) hahead
      refine ⟨[c.current], ?_, List.forall_mem_singleton.2 hend⟩
      rw [tokens_advance htokens (List.cons_ne_nil _ _) hend]
      exact htokens

theorem Reaches.remaining_le (h : c.Reaches c') : c'.remaining ≤ c.remaining := by
  obtain ⟨passed, htokens, -⟩ := h
  have hlength := congrArg List.length htokens
  rw [List.length_append, length_tokens, length_tokens] at hlength
  omega

/-- What lies further on is among the same tokens. -/
theorem Among.of_reaches (h : c.Among G) (hreach : c.Reaches c') : c'.Among G := by
  obtain ⟨passed, htokens, -⟩ := hreach
  constructor
  · intro t ht
    exact h.tokens t (htokens ▸ List.mem_append_right passed ht)
  · have hlast := h.ends
    have hne : c'.tokens ≠ [] := List.cons_ne_nil _ _
    rwa [htokens, List.getLast?_append_of_ne_nil _ hne] at hlast

theorem Among.current (h : c.Among G) : G c.current := h.tokens _ List.mem_cons_self

/-- Before the end a cursor moves on. -/
theorem Among.remaining_advance_lt (h : c.Among G) (hend : c.current.kind ≠ .endOfFile) :
    c.advance.remaining < c.remaining := by
  obtain ⟨next, rest, hahead⟩ : ∃ next rest, c.ahead = next :: rest := by
    refine List.exists_cons_of_ne_nil fun hnil => hend ?_
    have hlast := h.ends
    rw [Cursor.tokens, hnil] at hlast
    exact Option.some.inj hlast
  have htokens : c.tokens = c.current :: next :: rest := congrArg (c.current :: ·) hahead
  exact Cursor.remaining_advance_lt htokens (List.cons_ne_nil _ _) hend

end Cursor

variable {α β : Type}

/-- What a parser comes to if it gets on from a cursor: a value, with fewer tokens ahead if it is
one of `taken`; a rejection; or the fault of a broken literal among the tokens. -/
inductive Proceeded (G : Token → Prop) (c : Cursor) (taken : α → Prop) : Parsed α → Prop where
  | ok {a : α} {c' : Cursor} (hreach : c.Reaches c')
    (hlt : taken a → c'.remaining < c.remaining) : Proceeded G c taken (.ok a c')
  | rejected {e : ParseError} {c' : Cursor} (hreach : c.Reaches c') :
    Proceeded G c taken (.error (.rejected e) c')
  | broken {t : Token} {c' : Cursor} (hreach : c.Reaches c') (ht : G t)
    (hbroken : ¬t.lexeme.Intact) : Proceeded G c taken (.error (.fault .brokenLiteral) c')

namespace Proceeded

variable {G : Token → Prop} {c c' c'' : Cursor} {U V : α → Prop} {W : β → Prop} {x : Parsed α}

/-- Among intact tokens there is no fault. -/
theorem ne_fault (h : Proceeded (·.lexeme.Intact) c V x) (f : Fault) (c' : Cursor) :
    x ≠ .error (.fault f) c' := by
  cases h with
  | ok | rejected => exact nofun
  | broken _ hintact hbroken => exact absurd hintact hbroken

theorem of_ok {a : α} (h : Proceeded G c V (.ok a c')) :
    c.Reaches c' ∧ (V a → c'.remaining < c.remaining) := by
  cases h with
  | ok hreach hlt => exact ⟨hreach, hlt⟩

/-- An error is one whatever the values would have been, and from places further back. -/
theorem error {e : ParseFailure} (hreach : c.Reaches c')
    (h : Proceeded G c' U (.error e c'' : Parsed α)) :
    Proceeded G c W (.error e c'' : Parsed β) := by
  cases h with
  | rejected hreach' => exact .rejected (hreach.trans hreach')
  | broken hreach' ht hbroken => exact .broken (hreach.trans hreach') ht hbroken

theorem weaken (h : Proceeded G c V x) (hUV : ∀ a, U a → V a) : Proceeded G c U x := by
  cases x with
  | ok a c' =>
    obtain ⟨hreach, hlt⟩ := h.of_ok
    exact .ok hreach fun ha => hlt (hUV _ ha)
  | error e c' => exact h.error (.refl c)

/-- What got on from a place further on, got on. -/
theorem of_reaches (hreach : c.Reaches c') (h : Proceeded G c' V x) : Proceeded G c V x := by
  cases x with
  | ok a c'' =>
    obtain ⟨hreach', hlt⟩ := h.of_ok
    exact .ok (hreach.trans hreach') fun ha => Nat.lt_of_lt_of_le (hlt ha) hreach.remaining_le
  | error e c'' => exact h.error hreach

/-- If that place is behind a token, then a token was taken whatever the value. -/
theorem of_lt (hreach : c.Reaches c') (hlt : c'.remaining < c.remaining)
    (h : Proceeded G c' U x) : Proceeded G c V x := by
  cases x with
  | ok a c'' =>
    have hreach' := h.of_ok.1
    exact .ok (hreach.trans hreach') fun _ => Nat.lt_of_le_of_lt hreach'.remaining_le hlt
  | error e c'' => exact h.error hreach

end Proceeded

/-- A parser gets on wherever fewer than `limit` tokens are ahead. -/
def Proceeds (G : Token → Prop) (limit : Nat) (p : Parser α) (taken : α → Prop) : Prop :=
  ∀ c : Cursor, c.Among G → c.remaining < limit → Proceeded G c taken (p c)

/-- A parser gets on wherever it stands on a given token and fewer than `limit` are ahead. -/
def ProceedsAt (G : Token → Prop) (t : Token) (limit : Nat) (p : Parser α) (taken : α → Prop) :
    Prop :=
  ∀ c : Cursor, c.Among G → c.remaining < limit → c.current = t → Proceeded G c taken (p c)

namespace Proceeds

variable {G : Token → Prop} {k m : Nat} {p : Parser α} {f : α → Parser β} {U V : α → Prop}
  {W : β → Prop} {t : Token}

theorem mono (h : Proceeds G m p V) (hm : k ≤ m) : Proceeds G k p V :=
  fun c hc hlt => h c hc (Nat.lt_of_lt_of_le hlt hm)

/-- Less can be said of when a token was taken. -/
theorem weaken (h : Proceeds G m p V) (hUV : ∀ a, U a → V a) : Proceeds G m p U :=
  fun c hc hlt => (h c hc hlt).weaken hUV

/-- Nothing may be said of that at all. -/
theorem free (h : Proceeds G m p V) : Proceeds G m p fun _ => False := h.weaken nofun

theorem pure {a : α} (ha : ¬V a) : Proceeds G m (Pure.pure a : Parser α) V :=
  fun c _ _ => .ok (.refl c) fun hV => absurd hV ha

/-- A parser that finds a literal broken gets on where the token that it looks at is. -/
theorem broken {t : Token} (ht : G t) (hbroken : ¬t.lexeme.Intact) (V : α → Prop) :
    Proceeds G m (throw (.fault .brokenLiteral) : Parser α) V :=
  fun c _ _ => .broken (.refl c) ht hbroken

/-! ## Sequences -/

/-- What follows a value makes up for a token that was not taken yet. -/
theorem bind_or (hp : Proceeds G m p V) (htaken : ∀ a, V a → Proceeds G m (f a) fun _ => False)
    (hnot : ∀ a, ¬V a → Proceeds G m (f a) W) : Proceeds G m (p >>= f) W := by
  intro c hc hlt
  have hrun := hp c hc hlt
  cases hx : p c with
  | ok a c' =>
    rw [hx] at hrun
    rw [Parser.bind_of_ok hx]
    obtain ⟨hreach, hlt'⟩ := hrun.of_ok
    have hc' := hc.of_reaches hreach
    have hc'lt := Nat.lt_of_le_of_lt hreach.remaining_le hlt
    by_cases ha : V a
    · exact (htaken a ha c' hc' hc'lt).of_lt hreach (hlt' ha)
    · exact (hnot a ha c' hc' hc'lt).of_reaches hreach
  | error e c' =>
    rw [hx] at hrun
    rw [Parser.bind_of_error hx]
    exact hrun.error (.refl c)

theorem bind (hp : Proceeds G m p V) (hf : ∀ a, Proceeds G m (f a) W) :
    Proceeds G m (p >>= f) W :=
  hp.bind_or (fun a _ => (hf a).free) fun a _ => hf a

/-- Behind a token that was taken the limit is lower, and there is nothing left to make up for. -/
theorem bind_taken (hm : m ≤ k + 1) (hp : Proceeds G m p fun _ => True)
    (hf : ∀ a, Proceeds G k (f a) fun _ => False) : Proceeds G m (p >>= f) W := by
  intro c hc hlt
  have hrun := hp c hc hlt
  cases hx : p c with
  | ok a c' =>
    rw [hx] at hrun
    rw [Parser.bind_of_ok hx]
    obtain ⟨hreach, hlt'⟩ := hrun.of_ok
    have hless := hlt' trivial
    have hk := Nat.lt_of_lt_of_le hless (Nat.le_of_lt_succ (Nat.lt_of_lt_of_le hlt hm))
    exact (hf a c' (hc.of_reaches hreach) hk).of_lt hreach hless
  | error e c' =>
    rw [hx] at hrun
    rw [Parser.bind_of_error hx]
    exact hrun.error (.refl c)

/-- A parser that tells whether it has taken a token. -/
theorem bind_bool {p : Parser Bool} {f : Bool → Parser β} (hp : Proceeds G m p (· = true))
    (htrue : Proceeds G m (f true) fun _ => False) (hfalse : Proceeds G m (f false) W) :
    Proceeds G m (p >>= f) W := by
  refine hp.bind_or (fun found hfound => ?_) fun found hfound => ?_
  · rw [hfound]
    exact htrue
  · rw [Bool.eq_false_iff.2 hfound]
    exact hfalse

theorem discard {P : Prop} (hp : Proceeds G m p fun _ => P) :
    Proceeds G m (Functor.discard p) fun _ => P := by
  intro c hc hlt
  rw [Parser.discard_run]
  exact (hp.bind_or (fun _ _ => pure id) fun _ hP => pure hP) c hc hlt

/-! ## Looking and moving -/

theorem at_of (h : Proceeds G m p V) : ProceedsAt G t m p V := fun c hc hlt _ => h c hc hlt

theorem peek_bind {f : Token → Parser β} (h : ∀ t : Token, G t → ProceedsAt G t m (f t) W) :
    Proceeds G m (Parser.peek >>= f) W := by
  intro c hc hlt
  rw [Parser.bind_of_ok (Parser.peek_run c)]
  exact h c.current hc.current c hc hlt rfl

/-- Where the cursor is not on the end, moving on takes a token. -/
theorem advanced {a : α} {c : Cursor} (hc : c.Among G) (hend : c.current.kind ≠ .endOfFile) :
    Proceeded G c V (.ok a c.advance) :=
  .ok c.reaches_advance fun _ => hc.remaining_advance_lt hend

/-- A token that is not the end is taken when the cursor moves on. -/
theorem advance_bind_at {f : Token → Parser β} (hm : m ≤ k + 1) (ht : t.kind ≠ .endOfFile)
    (h : Proceeds G k (f t) fun _ => False) :
    ProceedsAt G t m (Parser.advance >>= f) W := by
  rintro c hc hlt rfl
  have hless := hc.remaining_advance_lt ht
  rw [Parser.bind_of_ok (Parser.advance_run c)]
  have hk := Nat.lt_of_lt_of_le hless (Nat.le_of_lt_succ (Nat.lt_of_lt_of_le hlt hm))
  exact (h c.advance (hc.of_reaches c.reaches_advance) hk).of_lt c.reaches_advance hless

theorem discard_advance_bind_at {q : Parser β} (hm : m ≤ k + 1) (ht : t.kind ≠ .endOfFile)
    (h : Proceeds G k q fun _ => False) :
    ProceedsAt G t m (Functor.discard Parser.advance >>= fun _ => q) W := by
  rintro c hc hlt hcurrent
  rw [Parser.bind_of_ok (Parser.discard_advance_run c)]
  have hrun := advance_bind_at (f := fun _ => q) (W := W) hm ht h c hc hlt hcurrent
  rwa [Parser.bind_of_ok (Parser.advance_run c)] at hrun

theorem peek : Proceeds G m Parser.peek fun _ => False :=
  fun c _ _ => .ok (.refl c) nofun

theorem peekAhead (i : Nat) : Proceeds G m (Parser.peekAhead i) fun _ => False :=
  fun c _ _ => .ok (.refl c) nofun

theorem advance : Proceeds G m Parser.advance fun t => t.kind ≠ .endOfFile :=
  fun c hc _ => .ok c.reaches_advance fun hend => hc.remaining_advance_lt hend

theorem check (kind : TokenKind) : Proceeds G m (Parser.check kind) fun _ => False :=
  fun c _ _ => .ok (.refl c) nofun

theorem checkKeyword (word : String) : Proceeds G m (Parser.checkKeyword word) fun _ => False :=
  fun c _ _ => .ok (.refl c) nofun

/-- A parser that looks at a second token where it has found a first one. -/
theorem check_peekAhead_bind {kind : TokenKind} {f : Bool → Token → Parser β}
    (hfound : ∀ t next, t.kind = kind → ProceedsAt G t m (f true next) W)
    (hnot : ∀ next, Proceeds G m (f false next) W) :
    Proceeds G m (Parser.check kind >>= fun found => Parser.peekAhead 1 >>= f found) W := by
  intro c hc hlt
  rw [Parser.bind_of_ok (Parser.check_run kind c), Parser.bind_of_ok (Parser.peekAhead_run 1 c)]
  cases hkind : c.current.kind == kind with
  | true => exact hfound _ _ (beq_iff_eq.1 hkind) c hc hlt rfl
  | false => exact hnot _ c hc hlt

theorem note_bind {q : Parser β} (x : Note) (h : Proceeds G m q W) :
    Proceeds G m (Parser.note x >>= fun _ => q) W := by
  intro c hc hlt
  have hnoted : c.Reaches { c with notes := c.notes ++ [x] } := ⟨[], rfl, nofun⟩
  exact (h _ (hc.of_reaches hnoted) hlt).of_reaches hnoted

/-- What is consumed is taken, unless it is the end. -/
theorem consumes (kind : TokenKind) :
    Proceeds G m (Parser.consume kind) fun found => found = true ∧ kind ≠ .endOfFile := by
  intro c hc _
  rw [Parser.consume_run]
  split
  · rename_i hfound
    exact .ok c.reaches_advance fun ⟨_, hkind⟩ =>
      hc.remaining_advance_lt (beq_iff_eq.1 hfound ▸ hkind)
  · exact .ok (.refl c) nofun

theorem consume {kind : TokenKind} (hkind : kind ≠ .endOfFile) :
    Proceeds G m (Parser.consume kind) (· = true) :=
  (consumes kind).weaken fun _ hfound => ⟨hfound, hkind⟩

theorem kind_ne_of_isKeyword {word : String} (h : t.isKeyword word = true) :
    t.kind ≠ .endOfFile := by
  intro hend
  have hends := Token.endsStatement_of_isKeyword h
  rw [hend] at hends
  cases hends

theorem consumeKeyword (word : String) :
    Proceeds G m (Parser.consumeKeyword word) (· = true) := by
  intro c hc _
  rw [Parser.consumeKeyword_run]
  split
  · rename_i hfound
    exact advanced hc (kind_ne_of_isKeyword hfound)
  · exact .ok (.refl c) nofun

/-! ## Rejecting -/

theorem unexpected (expected : List String) (V : α → Prop) :
    Proceeds G m (Parser.unexpected expected) V :=
  fun c _ _ => .rejected (.refl c)

theorem built (name : Token) (x : Except ArgumentError α) :
    Proceeds G m (Parser.built name x) fun _ => False := by
  cases x with
  | ok a => exact pure id
  | error reason => exact fun c _ _ => .rejected (.refl c)

/-- What is expected is taken, unless it is the end. -/
theorem expect (kind : TokenKind) (expected : String) :
    Proceeds G m (Parser.expect kind expected) fun _ => kind ≠ .endOfFile := by
  intro c hc _
  rw [Parser.expect_run]
  split
  · rename_i hfound
    exact .ok c.reaches_advance fun hkind =>
      hc.remaining_advance_lt (beq_iff_eq.1 hfound ▸ hkind)
  · exact .rejected (.refl c)

theorem expectKeyword (word : String) :
    Proceeds G m (Parser.expectKeyword word) fun _ => True := by
  intro c hc _
  rw [Parser.expectKeyword_run]
  split
  · rename_i hfound
    exact advanced hc (kind_ne_of_isKeyword hfound)
  · exact .rejected (.refl c)

/-! ## Repeating -/

/-- **Repetition gets on**, if every round that finds something takes a token. -/
theorem many {item : Parser (Option α)} (h : Proceeds G m item (· ≠ none)) :
    Proceeds G m (Parser.many item) fun _ => False := by
  intro c hc hlt
  -- by what is ahead: a round that finds something leaves less of it, so it is never a stalled one
  generalize hn : c.remaining = n
  induction n using Nat.strongRecOn generalizing c with
  | ind n ih =>
    subst hn
    have hround := h c hc hlt
    cases hx : item c with
    | error e c₁ =>
      rw [hx] at hround
      rw [Parser.many_of_error hx]
      exact hround.error (.refl c)
    | ok found c₁ =>
      rw [hx] at hround
      obtain ⟨hreach₁, hlt₁⟩ := hround.of_ok
      cases found with
      | none =>
        rw [Parser.many_of_none hx]
        exact .ok hreach₁ nofun
      | some a =>
        have hless := hlt₁ (Option.some_ne_none a)
        have hrest := ih c₁.remaining hless c₁ (hc.of_reaches hreach₁) (Nat.lt_trans hless hlt) rfl
        cases hy : Parser.many item c₁ with
        | error e c₂ =>
          rw [hy] at hrest
          rw [Parser.many_of_some_of_error hx hless hy]
          exact hrest.error hreach₁
        | ok as c₂ =>
          rw [hy] at hrest
          rw [Parser.many_of_some_of_ok hx hless hy]
          exact .ok (hreach₁.trans hrest.of_ok.1) nofun

/-- Items with commas between them take a token if each item does.  They get on even where an item
takes none, as every round has taken its comma. -/
theorem csv {item : Parser α} {P : Prop} (h : Proceeds G m item fun _ => P) :
    Proceeds G m (Parser.csv item) fun _ => P := by
  have hround : Proceeds G m
      (do if ← Parser.consume .comma then return some (← item) else return none) (· ≠ none) :=
    (consume TokenKind.noConfusion).bind_bool (h.free.bind fun a => pure id)
      (pure fun hne => hne rfl)
  exact h.bind_or (fun first _ => (many hround).bind fun rest => pure id)
    fun first hP => (many hround).bind fun rest => pure hP

/-- A list takes its closing bracket, whatever the items take. -/
theorem csvToEndBracket {item : Parser α} {P : Prop} (h : Proceeds G m item fun _ => P) :
    Proceeds G m (Parser.csvToEndBracket item) fun _ => True := by
  refine (consume TokenKind.noConfusion).bind_bool (pure id) ?_
  refine (csv h).bind fun items => ?_
  exact (consume TokenKind.noConfusion).bind_bool (pure id) (unexpected _ _)

/-! ## Descending -/

/-- **A family of parsers gets on**, if it does so wherever its nested parsers get on further on. -/
theorem of_descend {ι : Type} {p : ι → Parser α}
    (h : ∀ c : Cursor, c.Among G → c.remaining < m →
      (∀ j, Proceeds G c.remaining (Parser.descend c fun inner _ => p j inner) V) →
      ∀ i, Proceeded G c V (p i c)) (i : ι) : Proceeds G m (p i) V := by
  intro c hc hlt
  -- by what is ahead, for every member at once: what is nested stands further on
  generalize hk : c.remaining = k
  induction k using Nat.strongRecOn generalizing c i with
  | ind k ih =>
    subst hk
    refine h c hc hlt (fun j inner hinner hless => ?_) i
    rw [Parser.descend_of_lt hless]
    exact ih inner.remaining hless j inner hinner (Nat.lt_trans hless hlt) rfl

end Proceeds
end SqlDialects
