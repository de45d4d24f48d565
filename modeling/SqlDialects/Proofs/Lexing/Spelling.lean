import SqlDialects.Proofs.Lexing.Token

/-!
# Spelling lexemes

How texts are put together so that they are cut into the lexemes of their parts.
A written expression is made of parts with blanks, commas and brackets between
them, and every such part begins with no blank and may stand before a blank, a
comma, a closing bracket or the end.  `Lexer.Spells` is that notion of a part, and
the lemmas here are the ways in which parts make a part.

What stands between brackets may be nothing at all, so there the weaker notion of
a cut is used, `Lexer.Cuts` before a closing character.
-/

namespace SqlDialects

namespace Lexeme

/-- A keyword. -/
def keyword (w : String) : Lexeme := ⟨.keyword, w⟩

/-- A word. -/
def word (w : String) : Lexeme := ⟨.word, w⟩

/-- An opening bracket. -/
def startBracket : Lexeme := ⟨.startBracket, "("⟩

/-- A closing bracket. -/
def endBracket : Lexeme := ⟨.endBracket, ")"⟩

/-- A comma. -/
def comma : Lexeme := ⟨.comma, ","⟩

/-- A point. -/
def dot : Lexeme := ⟨.dot, "."⟩

/-- A binary operator. -/
def operator (op : BinaryOperator) : Lexeme :=
  match op with
  | .or => keyword "OR"
  | .and => keyword "AND"
  | .eq => ⟨.equals, "="⟩
  | .notEq => ⟨.notEquals, "<>"⟩
  | .lt => ⟨.lessThan, "<"⟩
  | .ltEq => ⟨.lessThanOrEqual, "<="⟩
  | .gt => ⟨.greaterThan, ">"⟩
  | .gtEq => ⟨.greaterThanOrEqual, ">="⟩
  | .stringConcat => ⟨.concat, "||"⟩
  | .plus => ⟨.plus, "+"⟩
  | .minus => ⟨.minus, "-"⟩
  | .multiply => ⟨.star, "*"⟩
  | .divide => ⟨.divide, "/"⟩
  | .modulo => ⟨.percent, "%"⟩

/-- An operator before its operand. -/
def prefixOperator (op : UnaryOperator) : Lexeme :=
  match op with
  | .not => keyword "NOT"
  | .minus => ⟨.minus, "-"⟩
  | .plus => ⟨.plus, "+"⟩

/-- Lexemes with commas between them. -/
def commas : List (List Lexeme) → List Lexeme
  | [] => []
  | ls :: rest => ls ++ rest.flatMap (comma :: ·)

theorem commas_eq_intercalate (lss : List (List Lexeme)) :
    commas lss = [comma].intercalate lss := by
  cases lss with
  | nil => rfl
  | cons ls rest =>
    induction rest generalizing ls with
    | nil =>
      rw [List.intercalate_singleton]
      exact List.append_nil ls
    | cons ms rest ih =>
      rw [List.intercalate_cons_cons, ← ih, List.append_assoc]
      rfl

/-- Lexemes with nothing between them. -/
theorem nil_intercalate (lss : List (List Lexeme)) : [].intercalate lss = lss.flatten := by
  cases lss with
  | nil => rfl
  | cons ls rest =>
    induction rest generalizing ls with
    | nil =>
      rw [List.intercalate_singleton]
      exact (List.append_nil ls).symm
    | cons ms rest ih =>
      rw [List.intercalate_cons_cons, ih, List.append_nil]
      rfl

/-- Lexemes in brackets. -/
def bracketed (ls : List Lexeme) : List Lexeme := startBracket :: ls ++ [endBracket]

end Lexeme

/-- What may follow a part of a written expression. -/
def Closes (o : Option Char) : Prop :=
  o = none ∨ o = some ' ' ∨ o = some ',' ∨ o = some ')'

/-- What holds at the end, before a blank, before a comma and before a closing bracket holds
before all that may follow a part. -/
theorem Closes.forall {F : Option Char → Prop} (h₁ : F none) (h₂ : F (some ' '))
    (h₃ : F (some ',')) (h₄ : F (some ')')) : ∀ o, Closes o → F o := by
  rintro o (rfl | rfl | rfl | rfl)
  · exact h₁
  · exact h₂
  · exact h₃
  · exact h₄

/-- A text with others behind it begins as it does alone. -/
theorem Text.head?_intercalate {sep s : String} {c : Char} (h : s.toList.head? = some c)
    (rest : List String) : (String.intercalate sep (s :: rest)).toList.head? = some c := by
  cases rest with
  | nil =>
    rw [String.intercalate_singleton]
    exact h
  | cons t rest =>
    rw [String.intercalate_cons_cons, String.append_assoc, String.toList_append,
      List.head?_append, h]
    rfl

/-- The rests that may follow a part, one by one. -/
theorem Closes.cases {rest : List Char} (h : Closes rest.head?) :
    rest = [] ∨ (∃ s, rest = ' ' :: s) ∨ (∃ s, rest = ',' :: s) ∨ ∃ s, rest = ')' :: s := by
  cases rest with
  | nil => exact Or.inl rfl
  | cons c s =>
    rcases h with h | h | h | h <;> cases h
    · exact Or.inr (Or.inl ⟨s, rfl⟩)
    · exact Or.inr (Or.inr (Or.inl ⟨s, rfl⟩))
    · exact Or.inr (Or.inr (Or.inr ⟨s, rfl⟩))

namespace Lexer

variable {l : Lexer} {F G : Option Char → Prop} {a b s t : String} {ls ms : List Lexeme}

/-- A part of a written expression, and the lexemes that it is cut into. -/
structure Spells (l : Lexer) (s : String) (ls : List Lexeme) : Prop where
  starts : ∃ c, s.toList.head? = some c ∧ Text.isBlank c = false
  cuts : l.Cuts Closes s.toList ls

theorem Cuts.append_toList (ha : l.Cuts F a.toList ls) (hb : l.Cuts G b.toList ms)
    (hF : ∀ o, G o → F (b.toList.head?.or o)) : l.Cuts G (a ++ b).toList (ls ++ ms) := by
  rw [String.toList_append]
  exact ha.append hb hF

/-- The lexemes of a part are those of the text. -/
theorem Spells.lexemes?_eq (h : l.Spells s ls) : l.lexemes? s.toList = some ls :=
  h.cuts.lexemes?_eq (Or.inl rfl)

/-- A part gives its beginning to whatever it is put before. -/
theorem Spells.starts_append (h : l.Spells s ls) (t : String) :
    ∃ c, (s ++ t).toList.head? = some c ∧ Text.isBlank c = false := by
  obtain ⟨c, hc, hblank⟩ := h.starts
  refine ⟨c, ?_, hblank⟩
  rw [String.toList_append, List.head?_append, hc]
  rfl

/-- What a part begins with may follow a blank. -/
theorem Spells.endsBlank (h : l.Spells s ls) (o : Option Char) :
    DialectName.EndsBlank (s.toList.head?.or o) := by
  obtain ⟨c, hc, hblank⟩ := h.starts
  rw [hc]
  rintro d hd
  cases hd
  exact hblank

end Lexer

/-! ## In the built-in dialects -/

namespace DialectName

variable {n : DialectName} {F : Option Char → Prop} {a b s w : String}
  {ls ms : List Lexeme}

theorem endsWord_of_closes : ∀ o, Closes o → EndsWord o := by
  apply Closes.forall
  · exact fun c hc => by cases hc
  all_goals
    intro c hc
    cases hc
    decide

theorem endsNumeral_of_closes : ∀ o, Closes o → Lexical.EndsNumeral o := by
  apply Closes.forall
  · exact fun c hc => by cases hc
  all_goals
    intro c hc
    cases hc
    decide

/-- What may follow a part may follow digits, if its characters are none. -/
theorem endsDigits_of_closes {k : CharClass}
    (h : [' ', ',', ')'].all (fun c => !k.contains c) = true) :
    ∀ o, Closes o → Clickhouse.EndsDigits k o := by
  apply Closes.forall
  · exact fun c hc => nomatch hc
  all_goals
    rintro c hc
    cases hc
    exact Bool.not_eq_true' _ ▸ List.all_eq_true.1 h _ (by decide)

/-- No rule for a token opens with a blank. -/
theorem opens_of_isBlank {r : LexicalRule} (hr : r ∈ n.rules) (htrivia : r.kind.isTrivia = false)
    {c : Char} (hc : Text.isBlank c = true) : r.pattern.opens c = false := by
  have hblanks : ∀ r ∈ n.rules, r.kind.isTrivia = false →
      ∀ v ∈ Text.blankRanges.ranges.flatMap fun k => List.range' k.1 (k.2 + 1 - k.1),
        r.pattern.opens (Char.ofNat v) = false := by
    cases n <;> decide +kernel
  exact Text.forall_isBlank (P := fun c => r.pattern.opens c = false) (hblanks r hr htrivia) hc

/-- **A token is a part**, if it is taken before all that may follow one. -/
theorem spells_of_takes {kind : TokenKind} (h : n.lexer.Takes F s.toList kind)
    (hF : ∀ o, Closes o → F o) (hkind : kind.isTrivia = false) :
    n.lexer.Spells s [⟨kind, s⟩] where
  starts := by
    obtain ⟨rule, hfirst, rfl⟩ := h [] (hF none (Or.inl rfl))
    rw [Lexer.isTrivia_kindOf] at hkind
    obtain ⟨hr, hreact⟩ := Lexer.of_firstReaction?_eq_some hfirst
    obtain ⟨c, cs, hcs⟩ := List.exists_cons_of_ne_nil (Lexical.Pattern.of_react_eq_matched hreact).2
    refine ⟨c, by rw [hcs]; rfl, ?_⟩
    cases hblank : Text.isBlank c with
    | false => rfl
    | true =>
      rw [hcs, List.cons_append,
        LexicalRule.react_of_opens_eq_false (opens_of_isBlank hr hkind hblank)] at hreact
      cases hreact
  cuts := by
    have hcuts := h.cuts
    rw [Lexer.lexemeOf, hkind, String.ofList_toList] at hcuts
    exact hcuts.mono hF

/-- A blank adds no lexeme, before what begins with no blank. -/
theorem cuts_blank : n.lexer.Cuts EndsBlank " ".toList [] := n.takes_blank.cuts

theorem cuts_word (hw : Text.isWord w.toList = true) :
    n.lexer.Cuts EndsWord w.toList [⟨n.wordKind w, w⟩] := by
  have h := (n.takes_word hw).cuts
  have htrivia : (n.wordKind w).isTrivia = false := by
    unfold wordKind
    split <;> rfl
  rw [Lexer.lexemeOf, htrivia, String.ofList_toList] at h
  exact h

/-- A word begins with no blank. -/
theorem head_of_isWord (hw : Text.isWord w.toList = true) :
    ∃ c, w.toList.head? = some c ∧ Text.isBlank c = false := by
  cases h : w.toList with
  | nil =>
    rw [h] at hw
    cases hw
  | cons c cs =>
    rw [h, Text.isWord, Bool.and_eq_true] at hw
    exact ⟨c, rfl, Text.isBlank_of_wordRest (Text.contains_wordRest_of_wordStart hw.1)⟩

theorem spells_word (hw : Text.isWord w.toList = true) :
    n.lexer.Spells w [⟨n.wordKind w, w⟩] :=
  ⟨head_of_isWord hw, (cuts_word hw).mono endsWord_of_closes⟩

/-- A reserved word spells a keyword. -/
theorem spells_keyword (hw : w ∈ Ansi.reservedWords) :
    n.lexer.Spells w [.keyword w] := by
  have hword : ∀ w ∈ Ansi.reservedWords, Text.isWord w.toList = true := by decide
  have h := spells_word (n := n) (hword w hw)
  rw [n.wordKind_of_mem hw] at h
  exact h

/-- An operator spells itself. -/
theorem spells_operator (op : BinaryOperator) :
    n.lexer.Spells op.symbol [.operator op] := by
  by_cases hword : op = .or ∨ op = .and
  · rcases hword with rfl | rfl
    · exact spells_keyword (w := "OR") (by decide)
    · exact spells_keyword (w := "AND") (by decide)
  · have htakes : n.lexer.Takes Closes op.symbol.toList (Lexeme.operator op).kind := by
      intro rest hrest
      rcases hrest.cases with rfl | ⟨s, rfl⟩ | ⟨s, rfl⟩ | ⟨s, rfl⟩ <;> cases op <;>
        first
        | exact absurd (by decide) hword
        | cases n <;> exact ⟨_, rfl, rfl⟩
    have hspells := spells_of_takes htakes (fun _ ho => ho) (by cases op <;> rfl)
    cases op <;> exact hspells

/-- Two parts with a blank between them. -/
theorem spells_spaced (ha : n.lexer.Spells a ls) (hb : n.lexer.Spells b ms) :
    n.lexer.Spells (a ++ " " ++ b) (ls ++ ms) := by
  rw [String.append_assoc]
  refine ⟨ha.starts_append _, ?_⟩
  have hblank := cuts_blank.append_toList hb.cuts fun o _ => hb.endsBlank o
  refine ha.cuts.append_toList hblank fun o _ => ?_
  rw [String.toList_append]
  exact Or.inr (Or.inl rfl)

/-- Two parts with a comma between them. -/
theorem spells_comma (ha : n.lexer.Spells a ls) (hb : n.lexer.Spells b ms) :
    n.lexer.Spells (a ++ ", " ++ b) (ls ++ .comma :: ms) := by
  have hcomma : n.lexer.Cuts Anything ",".toList [.comma] := n.takes_comma.cuts
  have hsplit : ", " = "," ++ " " := rfl
  rw [String.append_assoc, hsplit, String.append_assoc]
  refine ⟨ha.starts_append _, ?_⟩
  have hblank := cuts_blank.append_toList hb.cuts fun o _ => hb.endsBlank o
  have htail := hcomma.append_toList hblank fun _ _ => trivial
  refine ha.cuts.append_toList htail fun o _ => ?_
  rw [String.toList_append]
  exact Or.inr (Or.inr (Or.inl rfl))

section Joined

variable {ι : Type} {items : List ι} {text : ι → String} {lexemes : ι → List Lexeme}

/-- Parts with the same between any two of them, if that makes a part of two parts. -/
theorem spells_intercalate {sep : String} {between : List Lexeme}
    (hsep : ∀ {a b ls ms}, n.lexer.Spells a ls → n.lexer.Spells b ms →
      n.lexer.Spells (a ++ sep ++ b) (ls ++ between ++ ms))
    (hne : items ≠ []) (h : ∀ i ∈ items, n.lexer.Spells (text i) (lexemes i)) :
    n.lexer.Spells (String.intercalate sep (items.map text))
      (between.intercalate (items.map lexemes)) := by
  obtain ⟨i, rest, rfl⟩ := List.exists_cons_of_ne_nil hne
  clear hne
  induction rest generalizing i with
  | nil =>
    rw [List.map_singleton, List.map_singleton, String.intercalate_singleton,
      List.intercalate_singleton]
    exact h i List.mem_cons_self
  | cons j rest ih =>
    have hi := h i List.mem_cons_self
    have hrest := ih j fun k hk => h k (List.mem_cons_of_mem i hk)
    rw [List.map_cons, List.map_cons, String.intercalate_cons_cons, List.map_cons, List.map_cons,
      List.intercalate_cons_cons]
    exact hsep hi hrest

/-- Parts with blanks between them. -/
theorem spells_spaces (hne : items ≠ []) (h : ∀ i ∈ items, n.lexer.Spells (text i) (lexemes i)) :
    n.lexer.Spells (String.intercalate " " (items.map text)) (items.flatMap lexemes) := by
  rw [List.flatMap_def, ← Lexeme.nil_intercalate]
  refine spells_intercalate (fun {a b ls ms} ha hb => ?_) hne h
  rw [List.append_nil]
  exact spells_spaced ha hb

/-- Parts with blanks between them, or none. -/
theorem cuts_spaces (h : ∀ i ∈ items, n.lexer.Spells (text i) (lexemes i)) :
    n.lexer.Cuts Closes (String.intercalate " " (items.map text)).toList
      (items.flatMap lexemes) := by
  by_cases hne : items = []
  · rw [hne]
    exact Lexer.Cuts.nil _ _
  · exact (spells_spaces hne h).cuts

/-- Parts with commas between them. -/
theorem spells_commas (hne : items ≠ []) (h : ∀ i ∈ items, n.lexer.Spells (text i) (lexemes i)) :
    n.lexer.Spells (String.intercalate ", " (items.map text))
      (Lexeme.commas (items.map lexemes)) := by
  rw [Lexeme.commas_eq_intercalate]
  refine spells_intercalate (fun {a b ls ms} ha hb => ?_) hne h
  rw [List.append_assoc]
  exact spells_comma ha hb

/-- Parts with commas between them, or none. -/
theorem cuts_commas (h : ∀ i ∈ items, n.lexer.Spells (text i) (lexemes i)) :
    n.lexer.Cuts Closes (String.intercalate ", " (items.map text)).toList
      (Lexeme.commas (items.map lexemes)) := by
  by_cases hne : items = []
  · rw [hne]
    exact Lexer.Cuts.nil _ _
  · exact (spells_commas hne h).cuts

end Joined

/-- What stands in brackets, which may be nothing. -/
theorem cuts_bracketed (h : n.lexer.Cuts Closes s.toList ls) :
    n.lexer.Cuts Anything ("(" ++ s ++ ")").toList (Lexeme.bracketed ls) := by
  have hstart : n.lexer.Cuts Anything "(".toList [.startBracket] := n.takes_startBracket.cuts
  have hend : n.lexer.Cuts Anything ")".toList [.endBracket] := n.takes_endBracket.cuts
  have hclosed := h.append_toList hend fun o _ => Or.inr (Or.inr (Or.inr rfl))
  rw [String.append_assoc]
  exact hstart.append_toList hclosed fun o _ => trivial

theorem spells_bracketed (h : n.lexer.Cuts Closes s.toList ls) :
    n.lexer.Spells ("(" ++ s ++ ")") (Lexeme.bracketed ls) := by
  refine ⟨⟨'(', ?_, by decide⟩, (cuts_bracketed h).mono fun _ _ => trivial⟩
  rw [String.toList_append, String.toList_append]
  rfl

/-- A word and what stands in brackets behind it. -/
theorem cuts_called (hw : Text.isWord w.toList = true) (h : n.lexer.Cuts Closes s.toList ls) :
    n.lexer.Cuts Anything (w ++ "(" ++ s ++ ")").toList
      (⟨n.wordKind w, w⟩ :: Lexeme.bracketed ls) := by
  rw [String.append_assoc, String.append_assoc]
  have hbracketed := cuts_bracketed h
  rw [String.append_assoc] at hbracketed
  refine (cuts_word hw).append_toList hbracketed fun o _ => ?_
  rw [String.toList_append]
  intro c hc
  cases hc
  decide

theorem spells_called (hw : Text.isWord w.toList = true)
    (h : n.lexer.Cuts Closes s.toList ls) :
    n.lexer.Spells (w ++ "(" ++ s ++ ")") (⟨n.wordKind w, w⟩ :: Lexeme.bracketed ls) := by
  refine ⟨?_, (cuts_called hw h).mono fun _ _ => trivial⟩
  obtain ⟨c, hc, hblank⟩ := head_of_isWord hw
  refine ⟨c, ?_, hblank⟩
  rw [String.append_assoc, String.append_assoc, String.toList_append, List.head?_append, hc]
  rfl

end DialectName

end SqlDialects
