import SqlDialects.Proofs.Dialect.Assembled
import SqlDialects.Proofs.Lexing.Behind
import SqlDialects.Proofs.Parser.StatementsInStep
import SqlDialects.Translate

/-!
# What comes of a text

A text is read by cutting it into tokens and running a parser on them, and for a
built-in dialect both ways of reading are of this form: `outcome_parse` and
`outcome_parseOne`.  `Lexer.read` is the form itself, with one lemma for each way
in which it can end.
-/

namespace SqlDialects

/-- Whether a computation ended in a value can be decided if values can be told apart, whatever
the errors are. -/
instance Except.decidableEqOk {ε α : Type} [DecidableEq α] (x : Except ε α) (a : α) :
    Decidable (x = .ok a) :=
  match x with
  | .ok b => decidable_of_iff (b = a) ⟨congrArg Except.ok, Except.ok.inj⟩
  | .error _ => isFalse nofun

/-- Whether a computation was rejected for a given error can be decided, whatever its values are. -/
instance Except.decidableEqRejected {α : Type} (x : Except SqlError α) (e : ParseError) :
    Decidable (x = .error (.parse e)) :=
  match x with
  | .error (.parse e') =>
    decidable_of_iff (e' = e)
      ⟨fun h => by rw [h], fun h => SqlError.parse.inj (Except.error.inj h)⟩
  | .error (.lex _) | .error (.unsupported _) | .error (.unknownDialect _) | .error (.fault _)
  | .ok _ => isFalse nofun

variable {α : Type}

/-- What a parser comes to, wherever its cursor is then. -/
def Parsed.outcome : Parsed α → Except SqlError α
  | .ok a _ => .ok a
  | .error (.rejected e) _ => .error (.parse e)
  | .error (.fault f) _ => .error (.fault f)

/-- What comes of running a parser on the tokens of a text. -/
def Lexer.read (l : Lexer) (p : Parser α) (text : String) : Except SqlError α :=
  match l.lex text with
  | .error e => .error (.lex e)
  | .ok tokens => Parsed.outcome (p (.ofTokens tokens))

namespace Parsed

variable {x : Parsed α}

theorem outcome_eq_ok {a : α} : Parsed.outcome x = .ok a ↔ ∃ c, x = .ok a c := by
  rcases x with ⟨b, c⟩ | ⟨_ | _, c⟩ <;> simp [outcome]

theorem outcome_eq_parse {e : ParseError} :
    Parsed.outcome x = .error (.parse e) ↔ ∃ c, x = .error (.rejected e) c := by
  rcases x with ⟨b, c⟩ | ⟨_ | _, c⟩ <;> simp [outcome]

theorem outcome_eq_fault {f : Fault} :
    Parsed.outcome x = .error (.fault f) ↔ ∃ c, x = .error (.fault f) c := by
  rcases x with ⟨b, c⟩ | ⟨_ | _, c⟩ <;> simp [outcome]

theorem outcome_ne_lex (x : Parsed α) (e : LexError) : Parsed.outcome x ≠ .error (.lex e) := by
  rcases x with ⟨b, c⟩ | ⟨_ | _, c⟩ <;> exact nofun

end Parsed

namespace Lexer

variable {l : Lexer} {p : Parser α} {text : String} {tokens : List Token}

theorem read_of_ok (h : l.lex text = .ok tokens) :
    l.read p text = Parsed.outcome (p (.ofTokens tokens)) := by
  unfold read
  rw [h]

theorem read_eq_ok {a : α} : l.read p text = .ok a ↔
    ∃ tokens c, l.lex text = .ok tokens ∧ p (.ofTokens tokens) = .ok a c := by
  cases hlex : l.lex text with
  | error e => simp [read, hlex]
  | ok tokens =>
    rw [read_of_ok hlex, Parsed.outcome_eq_ok]
    simp

theorem read_eq_ok_of_lex (h : l.lex text = .ok tokens) {a : α} :
    l.read p text = .ok a ↔ ∃ c, p (.ofTokens tokens) = .ok a c := by
  rw [read_of_ok h, Parsed.outcome_eq_ok]

theorem read_eq_parse {e : ParseError} : l.read p text = .error (.parse e) ↔
    ∃ tokens c, l.lex text = .ok tokens ∧ p (.ofTokens tokens) = .error (.rejected e) c := by
  cases hlex : l.lex text with
  | error e => simp [read, hlex]
  | ok tokens =>
    rw [read_of_ok hlex, Parsed.outcome_eq_parse]
    simp

theorem read_eq_fault {f : Fault} : l.read p text = .error (.fault f) ↔
    ∃ tokens c, l.lex text = .ok tokens ∧ p (.ofTokens tokens) = .error (.fault f) c := by
  cases hlex : l.lex text with
  | error e => simp [read, hlex]
  | ok tokens =>
    rw [read_of_ok hlex, Parsed.outcome_eq_fault]
    simp

theorem read_eq_lex {e : LexError} : l.read p text = .error (.lex e) ↔ l.lex text = .error e := by
  cases hlex : l.lex text with
  | error e => simp [read, hlex]
  | ok tokens =>
    rw [read_of_ok hlex]
    exact iff_of_false (Parsed.outcome_ne_lex _ e) nofun

/-- The tokens of a text are those that a cursor begins with. -/
theorem tokens_ofTokens (h : l.lex text = .ok tokens) :
    (Cursor.ofTokens tokens).tokens = tokens := by
  obtain ⟨-, -, finish, rfl⟩ := of_lex_eq_ok h
  exact Cursor.tokens_ofTokens _ finish

end Lexer

namespace Dialect

open Grammar (nextStatement? onlyStatement)

variable {n : DialectName} {d : Dialect} {text : String}

theorem outcome_lex (hd : n.Makes d) (text : String) :
    (d.lex text).outcome = (n.lexer.lex text).mapError .lex := by
  unfold Dialect.lex
  rw [hd.lexer?]
  dsimp only
  cases n.lexer.lex text <;> rfl

theorem outcome_lex_eq_ok (hd : n.Makes d) {tokens : List Token} :
    (d.lex text).outcome = .ok tokens ↔ n.lexer.lex text = .ok tokens := by
  rw [outcome_lex hd]
  cases n.lexer.lex text <;> simp [Except.mapError]

/-- Running a parser on the tokens that a dialect finds is reading with its lexer. -/
theorem outcome_lex_bind_run (hd : n.Makes d) (p : Parser α) (text : String) :
    (d.lex text >>= p.run).outcome = n.lexer.read p text := by
  rw [Traced.outcome_bind, outcome_lex hd]
  unfold Lexer.read
  cases n.lexer.lex text with
  | error e => rfl
  | ok tokens =>
    show (p.run tokens).outcome = Parsed.outcome (p (.ofTokens tokens))
    unfold Parser.run
    rcases p (.ofTokens tokens) with ⟨a, c⟩ | ⟨_ | _, c⟩ <;> rfl

/-- What a dialect reads in a text: why it has no tokens, or what comes of reading statement after
statement. -/
theorem outcome_parse (hd : n.Makes d) (text : String) :
    (d.parse text).outcome = n.lexer.read (Parser.many (nextStatement? d)) text := by
  refine (outcome_lex_bind_run hd (Grammar.statements d) text).trans ?_
  unfold Lexer.read Grammar.statements
  cases n.lexer.lex text with
  | error e => rfl
  | ok tokens =>
    dsimp only
    cases hmany : Parser.many (nextStatement? d) (.ofTokens tokens) with
    | ok es c =>
      rw [Parser.bind_of_ok hmany]
      rfl
    | error e c =>
      rw [Parser.bind_of_error hmany]

/-- What a dialect reads in a text that is to hold one statement. -/
theorem outcome_parseOne (hd : n.Makes d) (text : String) :
    (d.parseOne text).outcome = n.lexer.read (onlyStatement d) text :=
  outcome_lex_bind_run hd (onlyStatement d) text

theorem outcome_parse_eq_ok (hd : n.Makes d) {es : List Expr} :
    (d.parse text).outcome = .ok es ↔ ∃ tokens c, n.lexer.lex text = .ok tokens ∧
      Parser.many (nextStatement? d) (.ofTokens tokens) = .ok es c := by
  rw [outcome_parse hd]
  exact Lexer.read_eq_ok

theorem outcome_parse_eq_parse (hd : n.Makes d) {e : ParseError} :
    (d.parse text).outcome = .error (.parse e) ↔ ∃ tokens c, n.lexer.lex text = .ok tokens ∧
      Parser.many (nextStatement? d) (.ofTokens tokens) = .error (.rejected e) c := by
  rw [outcome_parse hd]
  exact Lexer.read_eq_parse

theorem outcome_parse_eq_lex (hd : n.Makes d) {e : LexError} :
    (d.parse text).outcome = .error (.lex e) ↔ n.lexer.lex text = .error e := by
  rw [outcome_parse hd]
  exact Lexer.read_eq_lex

end Dialect

end SqlDialects
