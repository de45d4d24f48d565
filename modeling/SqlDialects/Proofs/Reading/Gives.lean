import SqlDialects.Proofs.Lexing.Taken
import SqlDialects.Proofs.Parser.Run

/-!
# What parsers can give

`Gives n p P` is about every way in which a parser can succeed: wherever it gives
something, on tokens that were cut from a text, `P` holds of that.  Nothing is
said about when it succeeds, so the rules are those of a logic of partial
correctness, one for each way of putting parsers together, and a nested parser
that is stopped for lack of tokens is no exception to anything.

The tokens ahead were cut from a text, and remain so; what this says about them is
what `Lexeme.Taken` says.  A parser that looks at a token before it takes it makes
use of both being the same one: that is `GivesAt`.
-/

namespace SqlDialects

namespace Cursor

/-- The cursor is among tokens that have the forms of their kinds. -/
def Sound (n : DialectName) (c : Cursor) : Prop := ∀ t ∈ c.current :: c.ahead, t.lexeme.Taken n

variable {n : DialectName} {c : Cursor}

theorem Sound.taken_current (h : c.Sound n) : c.current.lexeme.Taken n := h _ List.mem_cons_self

theorem Sound.advance (h : c.Sound n) : c.advance.Sound n := by
  unfold Cursor.advance
  split
  · exact h
  · split
    · exact h
    · rename_i hahead
      intro t ht
      refine h t (List.mem_cons_of_mem c.current ?_)
      rw [hahead]
      exact ht

end Cursor

section Gives

variable {n : DialectName} {α β : Type}

/-- Where `p` gives something on tokens of a text, `P` holds of it. -/
def Gives (n : DialectName) (p : Parser α) (P : α → Prop) : Prop :=
  ∀ c a c', c.Sound n → p c = .ok a c' → c'.Sound n ∧ P a

/-- Where `p` gives something with the cursor on `t`, `P` holds of it. -/
def GivesAt (n : DialectName) (t : Token) (p : Parser α) (P : α → Prop) : Prop :=
  ∀ c a c', c.Sound n → c.current = t → p c = .ok a c' → c'.Sound n ∧ P a

namespace Gives

variable {p : Parser α} {f : α → Parser β} {P : α → Prop} {Q : β → Prop} {t : Token}

theorem mono {P' : α → Prop} (h : Gives n p P) (hP : ∀ a, P a → P' a) : Gives n p P' := by
  intro c a c' hc hp
  obtain ⟨hc', ha⟩ := h c a c' hc hp
  exact ⟨hc', hP a ha⟩

theorem pure {a : α} (ha : P a) : Gives n (Pure.pure a : Parser α) P := by
  intro c a' c' hc hp
  cases hp
  exact ⟨hc, ha⟩

theorem throw (e : ParseFailure) (P : α → Prop) : Gives n (MonadExcept.throw e : Parser α) P :=
  fun _ _ _ _ hp => nomatch hp

theorem unexpected (expected : List String) (P : α → Prop) :
    Gives n (Parser.unexpected expected : Parser α) P :=
  fun _ _ _ _ hp => nomatch hp

theorem bind (hp : Gives n p P) (hf : ∀ a, P a → Gives n (f a) Q) : Gives n (p >>= f) Q := by
  intro c b c'' hc h
  obtain ⟨a, c', hp', hf'⟩ := Parser.bind_eq_ok.1 h
  obtain ⟨hc', ha⟩ := hp c a c' hc hp'
  exact hf a ha c' b c'' hc' hf'

theorem discard (hp : Gives n p P) : Gives n (Functor.discard p) fun _ => True := by
  intro c a c' hc h
  rw [Parser.discard_run] at h
  exact hp.bind (Q := fun _ => True) (fun _ _ => Gives.pure trivial) c a c' hc h

theorem discard_bind {q : Parser β} (hp : Gives n p P) (hq : Gives n q Q) :
    Gives n (Functor.discard p >>= fun _ => q) Q :=
  hp.discard.bind fun _ _ => hq

/-! ## Looking and moving -/

theorem at_of (h : Gives n p P) (t : Token) : GivesAt n t p P :=
  fun c a c' hc _ hp => h c a c' hc hp

/-- A parser that looks at a token goes on with the cursor on it. -/
theorem peek_bind {f : Token → Parser β} (h : ∀ t, t.lexeme.Taken n → GivesAt n t (f t) Q) :
    Gives n (Parser.peek >>= f) Q := by
  intro c b c' hc hp
  rw [Parser.bind_of_ok (Parser.peek_run c)] at hp
  exact h c.current hc.taken_current c b c' hc rfl hp

/-- A parser that looks at a token takes that token. -/
theorem advance_bind_at {f : Token → Parser β} (h : Gives n (f t) Q) :
    GivesAt n t (Parser.advance >>= f) Q := by
  intro c b c' hc ht hp
  rw [Parser.bind_of_ok (Parser.advance_run c), ht] at hp
  exact h c.advance b c' hc.advance hp

theorem advance : Gives n Parser.advance fun t => t.lexeme.Taken n := by
  intro c t c' hc hp
  cases hp
  exact ⟨hc.advance, hc.taken_current⟩

theorem peekAhead_bind {f : Token → Parser β} {m : Nat} (h : ∀ t, Gives n (f t) Q) :
    Gives n (Parser.peekAhead m >>= f) Q := by
  intro c b c' hc hp
  rw [Parser.bind_of_ok (Parser.peekAhead_run m c)] at hp
  exact h (c.peek m) c b c' hc hp

theorem note (m : Note) : Gives n (Parser.note m) fun _ => True := by
  intro c a c' hc hp
  cases hp
  exact ⟨hc, trivial⟩

theorem check_bind {f : Bool → Parser β} {kind : TokenKind} (h : ∀ b, Gives n (f b) Q) :
    Gives n (Parser.check kind >>= f) Q := by
  intro c b c' hc hp
  rw [Parser.bind_of_ok (Parser.check_run kind c)] at hp
  exact h _ c b c' hc hp

theorem checkKeyword_bind {f : Bool → Parser β} {word : String} (h : ∀ b, Gives n (f b) Q) :
    Gives n (Parser.checkKeyword word >>= f) Q := by
  intro c b c' hc hp
  rw [Parser.bind_of_ok (Parser.checkKeyword_run word c)] at hp
  exact h _ c b c' hc hp

theorem consume (kind : TokenKind) : Gives n (Parser.consume kind) fun _ => True := by
  intro c b c' hc hp
  rw [Parser.consume_run] at hp
  split at hp
  · cases hp
    exact ⟨hc.advance, trivial⟩
  · cases hp
    exact ⟨hc, trivial⟩

theorem consumeKeyword (word : String) : Gives n (Parser.consumeKeyword word) fun _ => True := by
  intro c b c' hc hp
  rw [Parser.consumeKeyword_run] at hp
  split at hp
  · cases hp
    exact ⟨hc.advance, trivial⟩
  · cases hp
    exact ⟨hc, trivial⟩

theorem expect (kind : TokenKind) (expected : String) :
    Gives n (Parser.expect kind expected) fun t => t.kind = kind ∧ t.lexeme.Taken n := by
  intro c t c' hc hp
  rw [Parser.expect_run] at hp
  split at hp
  · rename_i hkind
    cases hp
    exact ⟨hc.advance, beq_iff_eq.1 hkind, hc.taken_current⟩
  · cases hp

theorem expectKeyword (word : String) : Gives n (Parser.expectKeyword word) fun _ => True := by
  intro c t c' hc hp
  rw [Parser.expectKeyword_run] at hp
  split at hp
  · cases hp
    exact ⟨hc.advance, trivial⟩
  · cases hp

/-- What is built from the arguments of a call, if something is. -/
theorem built {name : Token} {x : Except ArgumentError α} (h : ∀ a, x = .ok a → P a) :
    Gives n (Parser.built name x) P := by
  cases x with
  | ok a => exact Gives.pure (h a rfl)
  | error reason => exact fun _ _ _ _ hp => nomatch hp

/-! ## Repeating -/

theorem many {item : Parser (Option α)} (h : Gives n item fun o => ∀ a ∈ o, P a) :
    Gives n (Parser.many item) fun as => ∀ a ∈ as, P a := by
  intro c as c' hc hp
  refine Parser.many_induction (P := fun as c => c.Sound n → c'.Sound n ∧ ∀ a ∈ as, P a) ?_ ?_ hp hc
  · intro c hi hc
    exact ⟨(h c none c' hc hi).1, fun a ha => absurd ha List.not_mem_nil⟩
  · intro c c₁ a as hi _ ih hc
    obtain ⟨hc₁, ha⟩ := h c (some a) c₁ hc hi
    obtain ⟨hc', has⟩ := ih hc₁
    refine ⟨hc', fun a' ha' => ?_⟩
    rcases List.mem_cons.1 ha' with rfl | ha'
    · exact ha a' rfl
    · exact has a' ha'

/-- Items with commas between them, of which there is one at least. -/
theorem csv {item : Parser α} (h : Gives n item P) :
    Gives n (Parser.csv item) fun as => as ≠ [] ∧ ∀ a ∈ as, P a := by
  have hround : Gives n (do if ← Parser.consume .comma then return some (← item) else return none)
      fun o => ∀ a ∈ o, P a := by
    refine (consume .comma).bind fun found _ => ?_
    cases found with
    | true =>
      exact h.bind fun a ha => Gives.pure fun a' ha' => Option.some.inj ha' ▸ ha
    | false => exact Gives.pure nofun
  refine h.bind fun a ha => (many hround).bind fun as has => Gives.pure ⟨List.cons_ne_nil a as, ?_⟩
  exact List.forall_mem_cons.2 ⟨ha, has⟩

theorem csvToEndBracket {item : Parser α} (h : Gives n item P) :
    Gives n (Parser.csvToEndBracket item) fun as => ∀ a ∈ as, P a := by
  refine (consume .endBracket).bind fun closed _ => ?_
  cases closed with
  | true => exact Gives.pure fun a ha => absurd ha List.not_mem_nil
  | false =>
    refine (csv h).bind fun as has => (consume .endBracket).bind fun closed _ => ?_
    cases closed with
    | true => exact Gives.pure has.2
    | false => exact Gives.unexpected _ _

/-! ## Descending -/

/-- What nested parses give holds of what a parser gives, if the parser makes it hold from what its
nested parses give. -/
theorem of_descend {ι : Type} {p : ι → Parser α} {P : ι → α → Prop}
    (h : ∀ c, (∀ j, Gives n (Parser.descend c fun inner _ => p j inner) (P j)) → c.Sound n →
      ∀ i a c', p i c = .ok a c' → c'.Sound n ∧ P i a) (i : ι) : Gives n (p i) (P i) := by
  intro c a c' hc hp
  generalize hk : c.remaining = k
  induction k using Nat.strongRecOn generalizing c a c' i with
  | ind k ih =>
    refine h c (fun j inner b c'' hinner hdescend => ?_) hc i a c' hp
    unfold Parser.descend at hdescend
    split at hdescend
    · rename_i hlt
      exact ih inner.remaining (hk ▸ hlt) j inner b c'' hinner hdescend rfl
    · cases hdescend

end Gives

end Gives

end SqlDialects
