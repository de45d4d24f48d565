import SqlDialects.Proofs.RoundTrip.Calls

/-!
# Clauses come back

The clauses of a query stand in one order and each may be missing, so whether a
clause has ended is a matter of what may come next: a clause of later rank, or
whatever ends the query.  `EndsClause k` says that for the clauses from rank `k`
on, and none of these words is an operator, a name, or anything else that a clause
could go on with.  That is all that is ever asked of them.

A clause that is missing has no text and no lexemes, so that the statements about
a clause that may be there need no cases where they are used.
-/

namespace SqlDialects

variable {n : DialectName} {d : Dialect}

namespace Grammar

/-- The words that clauses begin with, in their order. -/
def clauseWords : List String := ["FROM", "WHERE", "GROUP", "HAVING", "ORDER", "LIMIT"]

/-- What may follow a query: a closing bracket or the end of a statement. -/
def EndsQuery (next : Lexeme) : Prop :=
  next.kind = .endBracket ∨ next.kind = .semicolon ∨ next.kind = .endOfFile

/-- What may follow the clauses below a rank. -/
def EndsClause (rank : Nat) (next : Lexeme) : Prop :=
  EndsQuery next ∨ ∃ w ∈ clauseWords.drop rank, next = .keyword w

namespace EndsClause

variable {rank : Nat} {next : Lexeme}

theorem mono {rank' : Nat} (h : EndsClause rank next) (hrank : rank' ≤ rank) :
    EndsClause rank' next := by
  rcases h with h | ⟨w, hw, hnext⟩
  · exact Or.inl h
  · refine Or.inr ⟨w, ?_, hnext⟩
    obtain ⟨j, rfl⟩ := Nat.exists_eq_add_of_le hrank
    rw [← List.drop_drop] at hw
    exact List.mem_of_mem_drop hw

/-- What ends a query is a mark, and no mark is another or a word. -/
theorem kind_ne (h : EndsClause rank next) {kind : TokenKind} (hkeyword : kind ≠ .keyword)
    (hbracket : kind ≠ .endBracket) (hsemicolon : kind ≠ .semicolon) (hend : kind ≠ .endOfFile) :
    next.kind ≠ kind := by
  rcases h with (h | h | h) | ⟨w, -, rfl⟩
  · exact fun heq => hbracket (heq.symm.trans h)
  · exact fun heq => hsemicolon (heq.symm.trans h)
  · exact fun heq => hend (heq.symm.trans h)
  · exact fun heq => hkeyword heq.symm

theorem isKeyword_eq_false (h : EndsClause rank next) {word : String}
    (hword : ∀ w ∈ clauseWords.drop rank, (Lexeme.keyword w).isKeyword word = false) :
    next.isKeyword word = false := by
  rcases h with (h | h | h) | ⟨w, hw, rfl⟩
  · exact Lexeme.isKeyword_of_kind_ne (fun heq => nomatch heq.symm.trans h) word
  · exact Lexeme.isKeyword_of_kind_ne (fun heq => nomatch heq.symm.trans h) word
  · exact Lexeme.isKeyword_of_kind_ne (fun heq => nomatch heq.symm.trans h) word
  · exact hword w hw

theorem endsOperand (h : EndsClause rank next) : EndsOperand 0 next := by
  refine ⟨h.kind_ne nofun nofun nofun nofun, h.kind_ne nofun nofun nofun nofun, ?_⟩
  have hnone : binaryOperator? next.token = none := by
    have hwords : ∀ w ∈ clauseWords, binaryOperator? (Lexeme.keyword w).token = none := by
      decide +kernel
    rcases h with (h | h | h) | ⟨w, hw, rfl⟩
    · unfold binaryOperator? Lexeme.token
      rw [h]
    · unfold binaryOperator? Lexeme.token
      rw [h]
    · unfold binaryOperator? Lexeme.token
      rw [h]
    · exact hwords w (List.mem_of_mem_drop hw)
  intro op hop
  rw [hnone] at hop
  cases hop

theorem endsNamed (h : EndsClause rank next) : EndsNamed next := by
  have hwords : ∀ w ∈ clauseWords, (Lexeme.keyword w).isKeyword "AS" = false := by decide +kernel
  exact ⟨h.isKeyword_eq_false fun w hw => hwords w (List.mem_of_mem_drop hw),
    h.kind_ne nofun nofun nofun nofun, h.kind_ne nofun nofun nofun nofun⟩

theorem endsElement (h : EndsClause rank next) : EndsElement next := ⟨h.endsOperand, h.endsNamed⟩

end EndsClause

end Grammar

/-! ## Clauses that may be missing -/

namespace Spelling

/-- The spelling of a clause that may be missing, by its words and what stands behind them. -/
def clause (words : Spelling) : Option Spelling → Spelling
  | none => ⟨"", []⟩
  | some s => ⟨" " ++ words.text ++ " " ++ s.text, words.lexemes ++ s.lexemes⟩

/-- The spellings of some things with commas between them, if there are any. -/
def commas? {α : Type} : List (α × Spelling) → Option Spelling
  | [] => none
  | i :: items => some (commas (i :: items))

/-- One spelling behind another. -/
def append (s t : Spelling) : Spelling := ⟨s.text ++ t.text, s.lexemes ++ t.lexemes⟩

/-- The words of a clause. -/
def clauseWord (w : String) : Spelling := ⟨w, [.keyword w]⟩

/-- The words of a clause with a second word. -/
def clauseBy (w : String) : Spelling := ⟨w ++ " BY", [.keyword w, .keyword "BY"]⟩

theorem spells_clauseWord {w : String} (hw : w ∈ Ansi.reservedWords) :
    n.lexer.Spells (clauseWord w).text (clauseWord w).lexemes :=
  DialectName.spells_keyword hw

theorem spells_clauseBy {w : String} (hw : w ∈ Ansi.reservedWords) :
    n.lexer.Spells (clauseBy w).text (clauseBy w).lexemes := by
  have hby : n.lexer.Spells "BY" [.keyword "BY"] := DialectName.spells_keyword (by decide)
  have hspells := DialectName.spells_spaced (DialectName.spells_keyword hw) hby
  rw [String.append_assoc] at hspells
  exact hspells

/-- **A clause is a part behind what it follows**, whether it is there or not. -/
theorem spells_append_clause {s words : Spelling} {o : Option Spelling}
    (hs : n.lexer.Spells s.text s.lexemes) (hwords : n.lexer.Spells words.text words.lexemes)
    (ho : ∀ t ∈ o, n.lexer.Spells t.text t.lexemes) :
    n.lexer.Spells (s.append (clause words o)).text (s.append (clause words o)).lexemes := by
  cases o with
  | none =>
    show n.lexer.Spells (s.text ++ "") (s.lexemes ++ [])
    rw [String.append_empty, List.append_nil]
    exact hs
  | some t =>
    have hspells := DialectName.spells_spaced (DialectName.spells_spaced hs hwords) (ho t rfl)
    show n.lexer.Spells (s.text ++ (" " ++ words.text ++ " " ++ t.text))
      (s.lexemes ++ (words.lexemes ++ t.lexemes))
    rw [← String.append_assoc, ← String.append_assoc, ← String.append_assoc, ← List.append_assoc]
    exact hspells

theorem spells_commas? {α : Type} (items : List (α × Spelling))
    (h : ∀ i ∈ items, n.lexer.Spells i.2.text i.2.lexemes) :
    ∀ t ∈ commas? items, n.lexer.Spells t.text t.lexemes := by
  intro t ht
  cases items with
  | nil => cases ht
  | cons i items =>
    cases ht
    exact DialectName.spells_commas (List.cons_ne_nil i items) h

end Spelling

/-! ## Rendering -/

namespace Render

variable {α : Type}

theorem outcome_clause {words : Spelling} (child : α → Child) {o : Option (α × Spelling)}
    (h : ∀ i ∈ o, (child i.1).2.outcome = .ok i.2.text) :
    (clause words.text (o.map fun i => child i.1)).outcome =
      .ok (Spelling.clause words (o.map (·.2))).text := by
  cases o with
  | none => rfl
  | some i => exact Traced.outcome_bind_of_ok (h i rfl) _

theorem outcome_clauseList (words : Spelling) (items : List (α × Spelling)) (text : α → Sql)
    (h : ∀ i ∈ items, (text i.1).outcome = .ok i.2.text) :
    (clauseList words.text (items.map fun i => text i.1)).outcome =
      .ok (Spelling.clause words (Spelling.commas? items)).text := by
  cases items with
  | nil => rfl
  | cons i items =>
    have hall : (Traced.all ((i :: items).map fun i => text i.1)).outcome =
        .ok ((i :: items).map fun i => i.2.text) := outcome_all h
    exact Traced.outcome_bind_of_ok hall _

end Render

/-! ## Reading -/

namespace Grammar

variable {α β : Type} {k : Nat} {F : Lexeme → Prop}

/-- What a clause begins with ends the clauses before it. -/
theorem endsClause_headOr {rank : Nat} {w : String} {words : List Lexeme}
    (hw : w ∈ clauseWords.drop rank) (o : Option Spelling) {text : String} {next : Lexeme}
    (hnext : EndsClause (rank + 1) next) :
    EndsClause rank
      (headOr (Spelling.clause ⟨text, .keyword w :: words⟩ o).lexemes next) := by
  cases o with
  | none => exact hnext.mono (Nat.le_succ rank)
  | some s => exact Or.inr ⟨w, hw, rfl⟩

theorem reads_clause (rank : Nat) (w : String) (value : α → β) {rest : Parser β}
    {o : Option (α × Spelling)}
    (hrest : ∀ i ∈ o, Reads k rest i.2.lexemes (value i.1) F)
    (hF : ∀ next, EndsClause rank next → F next)
    (hw : ∀ w' ∈ clauseWords.drop rank, (Lexeme.keyword w').isKeyword w = false) :
    Reads k (clause w rest) (Spelling.clause (.clauseWord w) (o.map (·.2))).lexemes
      (o.map fun i => value i.1) (EndsClause rank) := by
  cases o with
  | none =>
    exact Reads.consumeKeyword_bind_false (fun next hnext => hnext.isKeyword_eq_false hw)
      (Reads.pure k none _)
  | some i =>
    exact Reads.consumeKeyword_bind_true
      (((hrest i rfl).mono (Nat.le_refl k) hF).map_pure some) (Nat.le_succ k)

theorem reads_clauseBy (rank : Nat) (w : String) (item : Parser β) (items : List (α × Spelling))
    (value : α → β)
    (hitems : ∀ i ∈ items, Reads k item i.2.lexemes (value i.1) F) (hcomma : F .comma)
    (hF : ∀ next, EndsClause rank next → F next)
    (hw : ∀ w' ∈ clauseWords.drop rank, (Lexeme.keyword w').isKeyword w = false) :
    Reads k (clauseBy w item) (Spelling.clause (.clauseBy w) (Spelling.commas? items)).lexemes
      (items.map fun i => value i.1) (EndsClause rank) := by
  cases items with
  | nil =>
    exact Reads.consumeKeyword_bind_false (fun next hnext => hnext.isKeyword_eq_false hw)
      (Reads.pure k [] _)
  | cons i items =>
    have hlist := Reads.csv (G := EndsClause rank) (List.cons_ne_nil i items) hitems hcomma
      fun next hnext => ⟨hF next hnext, hnext.kind_ne nofun nofun nofun nofun⟩
    refine Reads.consumeKeyword_bind_true (m := k) ?_ (Nat.le_succ k)
    exact Reads.discard_expectKeyword_bind (m := k) hlist (Nat.le_succ k)

end Grammar

end SqlDialects
