import SqlDialects.Proofs.Lexing.Spelling
import SqlDialects.Proofs.Parser.Run

/-!
# Reading given lexemes

`Reads n p ls a F` says that the parser `p`, at a cursor before the lexemes `ls`,
gives `a` and ends behind them.  As with cutting a text, what follows matters: a
name goes on at a point, an expression at an operator, a list at a comma.  So the
statement is about what `p` does before a next lexeme that `F` allows; there
always is one, the end if nothing else.

## The bound

The grammar ties its knots with `Parser.descend`, which begins a nested parse only
where fewer tokens are ahead than where the outer one began.  A statement about a
parser with a nested one in it is therefore about cursors with fewer than `n`
tokens ahead, and each lexeme that is read makes room for one more: a parser that
reads `ls` and then goes on with one that is known below `m` is known below
`m + ls.length` (`Reads.bind`).  At the outermost level nothing is left of the
bound.
-/

namespace SqlDialects

/-! ## Cursors before lexemes -/

namespace Lexeme

/-- A token with a lexeme, at no place in particular. -/
def token (l : Lexeme) : Token := ⟨l.kind, l.text, {}⟩

/-- Whether a lexeme is the keyword `word`, in whatever case it was written. -/
def isKeyword (l : Lexeme) (word : String) : Bool := l.token.isKeyword word

theorem isKeyword_of_kind_ne {l : Lexeme} (h : l.kind ≠ .keyword) (word : String) :
    l.isKeyword word = false := by
  show (l.kind == .keyword && _) = false
  rw [beq_eq_false_iff_ne.2 h]
  rfl

end Lexeme

/-- The first of some lexemes, or the one behind them. -/
def headOr (ls : List Lexeme) (next : Lexeme) : Lexeme := ls.head?.getD next

theorem headOr_append (ls ms : List Lexeme) (next : Lexeme) :
    headOr (ls ++ ms) next = headOr ls (headOr ms next) := by
  cases ls <;> rfl

namespace Cursor

variable {c : Cursor} {l m : Lexeme} {rest : List Lexeme}

/-- The lexemes from the one under the cursor on. -/
def lexemes (c : Cursor) : List Lexeme := c.current.lexeme :: c.ahead.map Token.lexeme

theorem length_lexemes (c : Cursor) : c.lexemes.length = c.remaining + 1 := by
  unfold lexemes remaining
  rw [List.length_cons, List.length_map]

theorem lexeme_current (h : c.lexemes = l :: rest) : c.current.lexeme = l :=
  (List.cons.inj h).1

theorem lexeme_peek_one (h : c.lexemes = l :: m :: rest) : (c.peek 1).lexeme = m := by
  have hahead := (List.cons.inj h).2
  unfold peek
  cases hc : c.ahead with
  | nil =>
    rw [hc] at hahead
    cases hahead
  | cons t ts =>
    rw [hc] at hahead
    exact (List.cons.inj hahead).1

theorem lexemes_advance (h : c.lexemes = l :: m :: rest) (hl : l.kind ≠ .endOfFile) :
    c.advance.lexemes = m :: rest := by
  have hcurrent : c.current.kind ≠ .endOfFile := by
    have hkind := congrArg Lexeme.kind (lexeme_current h)
    exact fun heq => hl (hkind.symm.trans heq)
  have hahead := (List.cons.inj h).2
  unfold advance
  rw [if_neg hcurrent]
  cases hc : c.ahead with
  | nil =>
    rw [hc] at hahead
    cases hahead
  | cons t ts =>
    rw [hc] at hahead
    exact hahead

/-- The first of the lexemes at a cursor is the one under it. -/
theorem lexeme_current_eq_headOr {ls : List Lexeme} {next : Lexeme}
    (h : c.lexemes = ls ++ next :: rest) : c.current.lexeme = headOr ls next := by
  cases ls with
  | nil => exact lexeme_current h
  | cons l ls => exact lexeme_current h

end Cursor

/-- With fewer than `n` tokens ahead, before `ls` and then a lexeme that `F` allows, `p` gives `a`
and ends behind `ls`. -/
def Reads {α : Type} (n : Nat) (p : Parser α) (ls : List Lexeme) (a : α) (F : Lexeme → Prop) :
    Prop :=
  ∀ c next rest, c.remaining < n → c.lexemes = ls ++ next :: rest → F next →
    ∃ c', p c = .ok a c' ∧ c'.lexemes = next :: rest

/-- Anything may follow. -/
def AnyNext (_ : Lexeme) : Prop := True

namespace Reads

variable {α β : Type} {n m : Nat} {p : Parser α} {f : α → Parser β} {ls ms : List Lexeme}
  {a : α} {b : β} {F G : Lexeme → Prop}

theorem mono (h : Reads n p ls a F) (hmn : m ≤ n) (hGF : ∀ l, G l → F l) : Reads m p ls a G :=
  fun c next rest hlt hc hnext => h c next rest (Nat.lt_of_lt_of_le hlt hmn) hc (hGF _ hnext)

/-- What agrees with a parser below the bound reads as it does. -/
theorem of_agree {q : Parser α} (h : Reads n p ls a F)
    (hq : ∀ c, c.remaining < n → q c = p c) : Reads n q ls a F := by
  intro c next rest hlt hc hnext
  rw [hq c hlt]
  exact h c next rest hlt hc hnext

theorem pure (n : Nat) (a : α) (F : Lexeme → Prop) :
    Reads n (Pure.pure a : Parser α) [] a F :=
  fun c _ _ _ hc _ => ⟨c, rfl, hc⟩

/-- **One parser after another**, if the first allows what the second begins with. -/
theorem bind (hp : Reads n p ls a F) (hf : Reads m (f a) ms b G) (hnm : n ≤ m + ls.length)
    (hF : ∀ next, G next → F (headOr ms next)) : Reads n (p >>= f) (ls ++ ms) b G := by
  intro c next rest hlt hc hnext
  have hsplit : ∃ rest', ms ++ next :: rest = headOr ms next :: rest' := by
    cases ms with
    | nil => exact ⟨rest, rfl⟩
    | cons l ms => exact ⟨ms ++ next :: rest, rfl⟩
  obtain ⟨rest', hrest'⟩ := hsplit
  rw [List.append_assoc, hrest'] at hc
  obtain ⟨c', hp', hc'⟩ := hp c (headOr ms next) rest' hlt hc (hF next hnext)
  have hlt' : c'.remaining < m := by
    have hlength := c.length_lexemes
    have hlength' := c'.length_lexemes
    rw [hc, List.length_append] at hlength
    rw [hc'] at hlength'
    omega
  rw [Parser.bind_of_ok hp']
  exact hf c' next rest hlt' (hc'.trans hrest'.symm) hnext

/-- A parser whose result is only made into another. -/
theorem bind_pure (hp : Reads n p ls a F) (hf : f a = Pure.pure b) : Reads n (p >>= f) ls b F := by
  intro c next rest hlt hc hnext
  obtain ⟨c', hp', hc'⟩ := hp c next rest hlt hc hnext
  refine ⟨c', ?_, hc'⟩
  rw [Parser.bind_of_ok hp', hf]
  rfl

/-- A parser after which another takes nothing more. -/
theorem bind_end (hp : Reads n p ls a F) (hf : Reads n (f a) [] b G)
    (hF : ∀ next, G next → F next) : Reads n (p >>= f) ls b G := by
  have hbind := hp.bind hf (Nat.le_add_right n _) hF
  rwa [List.append_nil] at hbind

theorem map_pure (hp : Reads n p ls a F) (g : α → β) :
    Reads n (p >>= fun a => Pure.pure (g a)) ls (g a) F :=
  hp.bind_pure rfl

/-! ## Looking and moving

Two lemmas cover the primitives: what a parser does that only looks at the lexeme
under the cursor, and what it does that takes it. -/

section Step

variable {q r : Parser β} {l : Lexeme}

theorem of_look (h : Reads n r ls b G) (hq : ∀ c next, G next →
    c.current.lexeme = headOr ls next → q c = r c) : Reads n q ls b G := by
  intro c next rest hlt hc hnext
  rw [hq c next hnext (Cursor.lexeme_current_eq_headOr hc)]
  exact h c next rest hlt hc hnext

/-- Taking the token under the cursor leaves one fewer for the rest. -/
theorem of_take {f : Token → Parser β} (hl : l.kind ≠ .endOfFile)
    (h : ∀ t, t.lexeme = l → Reads m (f t) ms b G) (hnm : n ≤ m + 1)
    (hq : ∀ c, c.current.lexeme = l → q c = f c.current c.advance) :
    Reads n q (l :: ms) b G := by
  intro c next rest hlt hc hnext
  have hstep : ∃ l' rest', ms ++ next :: rest = l' :: rest' := by
    cases ms with
    | nil => exact ⟨next, rest, rfl⟩
    | cons l' ms => exact ⟨l', _, rfl⟩
  obtain ⟨l', rest', hrest'⟩ := hstep
  have hc' : c.lexemes = l :: l' :: rest' := by
    rw [hc, List.cons_append, hrest']
  have hcurrent := Cursor.lexeme_current hc'
  have hadvance := Cursor.lexemes_advance hc' hl
  rw [hq c hcurrent]
  refine h c.current hcurrent c.advance next rest ?_ (hadvance.trans hrest'.symm) hnext
  have hlength := c.length_lexemes
  have hlength' := c.advance.length_lexemes
  rw [hc', List.length_cons] at hlength
  rw [hadvance] at hlength'
  omega

end Step

theorem peek_bind {f : Token → Parser β} (h : ∀ t next, G next →
    t.lexeme = headOr ls next → Reads n (f t) ls b G) : Reads n (Parser.peek >>= f) ls b G := by
  intro c next rest hlt hc hnext
  rw [Parser.bind_of_ok (Parser.peek_run c)]
  exact h c.current next hnext (Cursor.lexeme_current_eq_headOr hc) c next rest hlt hc hnext

theorem peekAhead_bind {f : Token → Parser β} {l : Lexeme} (h : ∀ t next, G next →
    t.lexeme = headOr ms next → Reads n (f t) (l :: ms) b G) :
    Reads n (Parser.peekAhead 1 >>= f) (l :: ms) b G := by
  intro c next rest hlt hc hnext
  have hpeek : (c.peek 1).lexeme = headOr ms next := by
    cases ms with
    | nil => exact Cursor.lexeme_peek_one hc
    | cons m ms => exact Cursor.lexeme_peek_one hc
  rw [Parser.bind_of_ok (Parser.peekAhead_run 1 c)]
  exact h (c.peek 1) next hnext hpeek c next rest hlt hc hnext

theorem advance_bind {f : Token → Parser β} {l : Lexeme} (hl : l.kind ≠ .endOfFile)
    (h : ∀ t, t.lexeme = l → Reads m (f t) ms b G) (hnm : n ≤ m + 1) :
    Reads n (Parser.advance >>= f) (l :: ms) b G :=
  of_take hl h hnm fun c _ => Parser.bind_of_ok (Parser.advance_run c)

theorem discard_advance_bind {q : Parser β} {l : Lexeme} (hl : l.kind ≠ .endOfFile)
    (h : Reads m q ms b G) (hnm : n ≤ m + 1) :
    Reads n (Functor.discard Parser.advance >>= fun _ => q) (l :: ms) b G :=
  of_take (f := fun _ => q) hl (fun _ _ => h) hnm fun c _ =>
    Parser.bind_of_ok (Parser.discard_advance_run c)

/-! ## Tests -/

theorem check_bind {f : Bool → Parser β} {kind : TokenKind} (found : Bool)
    (hfound : ∀ next, G next → ((headOr ls next).kind == kind) = found)
    (h : Reads n (f found) ls b G) : Reads n (Parser.check kind >>= f) ls b G := by
  refine of_look h fun c next hnext hcurrent => ?_
  rw [Parser.bind_of_ok (Parser.check_run kind c), ← hfound next hnext, ← hcurrent]
  rfl

theorem checkKeyword_bind {f : Bool → Parser β} {word : String} (found : Bool)
    (hfound : ∀ next, G next → (headOr ls next).isKeyword word = found)
    (h : Reads n (f found) ls b G) : Reads n (Parser.checkKeyword word >>= f) ls b G := by
  refine of_look h fun c next hnext hcurrent => ?_
  rw [Parser.bind_of_ok (Parser.checkKeyword_run word c), ← hfound next hnext, ← hcurrent]
  rfl

theorem kind_beq_of_lexeme {t : Token} {l : Lexeme} (h : t.lexeme = l) :
    (t.kind == l.kind) = true := by
  rw [← h]
  exact beq_self_eq_true _

/-- A token that is not there is not taken. -/
theorem consume_bind_false {f : Bool → Parser β} {kind : TokenKind}
    (hno : ∀ next, G next → (headOr ls next).kind ≠ kind) (h : Reads n (f false) ls b G) :
    Reads n (Parser.consume kind >>= f) ls b G := by
  refine of_look h fun c next hnext hcurrent => Parser.bind_of_ok ?_
  have hkind := congrArg Lexeme.kind hcurrent
  rw [Parser.consume_run, if_neg]
  rw [beq_iff_eq]
  exact fun heq => hno next hnext (hkind.symm.trans heq)

theorem consume_bind_true {f : Bool → Parser β} {l : Lexeme} (hl : l.kind ≠ .endOfFile)
    (h : Reads m (f true) ms b G) (hnm : n ≤ m + 1) :
    Reads n (Parser.consume l.kind >>= f) (l :: ms) b G := by
  refine of_take (f := fun _ => f true) hl (fun _ _ => h) hnm fun c hcurrent =>
    Parser.bind_of_ok ?_
  rw [Parser.consume_run, if_pos (kind_beq_of_lexeme hcurrent)]

theorem consumeKeyword_bind_false {f : Bool → Parser β} {word : String}
    (hno : ∀ next, G next → (headOr ls next).isKeyword word = false)
    (h : Reads n (f false) ls b G) : Reads n (Parser.consumeKeyword word >>= f) ls b G := by
  refine of_look h fun c next hnext hcurrent => Parser.bind_of_ok ?_
  have hcheck : c.current.isKeyword word = false := by
    rw [← hno next hnext, ← hcurrent]
    rfl
  rw [Parser.consumeKeyword_run, hcheck]
  rfl

theorem isKeyword_of_lexeme {t : Token} {word : String} (h : t.lexeme = .keyword word) :
    t.isKeyword word = true := by
  have hword : (Lexeme.keyword word).token.isKeyword word = true := by
    show (TokenKind.keyword == .keyword && Text.sameIgnoringCase word word) = true
    rw [Text.sameIgnoringCase_self]
    rfl
  rw [← h] at hword
  exact hword

theorem kind_keyword (word : String) : (Lexeme.keyword word).kind ≠ .endOfFile := by
  intro h
  cases h

theorem consumeKeyword_bind_true {f : Bool → Parser β} {word : String}
    (h : Reads m (f true) ms b G) (hnm : n ≤ m + 1) :
    Reads n (Parser.consumeKeyword word >>= f) (.keyword word :: ms) b G := by
  refine of_take (f := fun _ => f true) (kind_keyword word) (fun _ _ => h) hnm
    fun c hcurrent => Parser.bind_of_ok ?_
  rw [Parser.consumeKeyword_run, isKeyword_of_lexeme hcurrent, if_pos rfl]

/-! ## Tokens that have to be there -/

theorem expect_bind {f : Token → Parser β} {l : Lexeme} {expected : String}
    (hl : l.kind ≠ .endOfFile) (h : ∀ t, t.lexeme = l → Reads m (f t) ms b G)
    (hnm : n ≤ m + 1) : Reads n (Parser.expect l.kind expected >>= f) (l :: ms) b G := by
  refine of_take hl h hnm fun c hcurrent => Parser.bind_of_ok ?_
  rw [Parser.expect_run, if_pos (kind_beq_of_lexeme hcurrent)]

theorem discard_expect_bind {q : Parser β} {l : Lexeme} {expected : String}
    (hl : l.kind ≠ .endOfFile) (h : Reads m q ms b G) (hnm : n ≤ m + 1) :
    Reads n (Functor.discard (Parser.expect l.kind expected) >>= fun _ => q) (l :: ms) b G := by
  refine of_take (f := fun _ => q) hl (fun _ _ => h) hnm
    fun c hcurrent => Parser.bind_of_ok (a := ()) ?_
  have hexpect : Parser.expect l.kind expected c = .ok c.current c.advance := by
    rw [Parser.expect_run, if_pos (kind_beq_of_lexeme hcurrent)]
  rw [Parser.discard_run, Parser.bind_of_ok hexpect]
  rfl

theorem discard_expectKeyword_bind {q : Parser β} {word : String} (h : Reads m q ms b G)
    (hnm : n ≤ m + 1) :
    Reads n (Functor.discard (Parser.expectKeyword word) >>= fun _ => q)
      (.keyword word :: ms) b G := by
  refine of_take (f := fun _ => q) (kind_keyword word) (fun _ _ => h) hnm
    fun c hcurrent => Parser.bind_of_ok (a := ()) ?_
  have hexpect : Parser.expectKeyword word c = .ok c.current c.advance := by
    rw [Parser.expectKeyword_run, isKeyword_of_lexeme hcurrent, if_pos rfl]
  rw [Parser.discard_run, Parser.bind_of_ok hexpect]
  rfl

/-- A note is made without moving. -/
theorem note_bind {q : Parser β} {note : Note} (h : Reads n q ls b G) :
    Reads n (Parser.note note >>= fun _ => q) ls b G :=
  fun c next rest hlt hc hnext =>
    h { c with notes := c.notes ++ [note] } next rest hlt hc hnext

end Reads

end SqlDialects
