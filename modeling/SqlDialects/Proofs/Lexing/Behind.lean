import SqlDialects.Proofs.Lexing.Lines
import SqlDialects.Proofs.Lexing.Taken

/-!
# A text behind another

A text that stands behind whole lines is read as it is read alone, and everything
in it lies where it lay, moved by what those lines take: so many bytes, so many
lines, and the columns stay.  `Place.behind` and its companions say so for places,
stretches, tokens and errors.

The lines that are looked at here are a text that is cut to its end and a semicolon
on a line of its own (`lex_behind`).  The first text keeps its tokens because a line
feed changes nothing about what comes before it; the second, because the first
character of a line is the first that the lexer sees of it.
-/

namespace SqlDialects

/-! ## Moving -/

/-- A place as it is counted from the beginning of the lines before. -/
def Place.behind (before : List Char) (p : Place) : Place :=
  ⟨p.offset + Text.byteLength before, p.line + before.count '\n', p.column⟩

/-- A stretch as it is counted from the beginning of the lines before. -/
def Span.behind (before : List Char) (s : Span) : Span :=
  ⟨s.start + Text.byteLength before, s.stop + Text.byteLength before,
    s.line + before.count '\n', s.column⟩

/-- A token as it is found behind some lines. -/
def Token.behind (before : List Char) (t : Token) : Token :=
  { t with span := t.span.behind before }

/-- An error as it is found behind some lines. -/
def LexError.behind (before : List Char) (e : LexError) : LexError :=
  { e with span := e.span.behind before }

namespace Place

variable (before : List Char) (p : Place)

theorem next_behind (c : Char) : (p.behind before).next c = (p.next c).behind before := by
  unfold next
  split <;> simp only [behind] <;> congr 1 <;> omega

theorem after_behind (s : List Char) : (p.behind before).after s = (p.after s).behind before := by
  induction s generalizing p with
  | nil => rfl
  | cons c s ih => rw [after_cons, after_cons, next_behind, ih]

theorem spanOf_behind (s : List Char) :
    (p.behind before).spanOf s = (p.spanOf s).behind before := by
  unfold spanOf behind Span.behind
  congr 1
  exact Nat.add_right_comm _ _ _

/-- What stands behind whole lines begins where a text begins. -/
theorem first_after_line (s : List Char) :
    first.after (s ++ ['\n']) = first.behind (s ++ ['\n']) := by
  have hoffset := first.offset_after (s ++ ['\n'])
  have hline := first.line_after (s ++ ['\n'])
  rw [after_append] at hoffset hline ⊢
  show Place.mk _ _ _ = Place.mk _ _ _
  congr 1

end Place

namespace Lexer

variable (l : Lexer) (before : List Char)

theorem placeTokens_append (p : Place) (es later : List Element) :
    l.placeTokens p (es ++ later) =
      l.placeTokens p es ++ l.placeTokens (p.after (es.flatMap (·.text))) later := by
  induction es generalizing p with
  | nil => rfl
  | cons e es ih =>
    rw [List.cons_append, placeTokens, placeTokens, ih, List.flatMap_cons, Place.after_append]
    split
    · rfl
    · rfl

theorem placeTokens_behind (p : Place) (es : List Element) :
    l.placeTokens (p.behind before) es = (l.placeTokens p es).map (Token.behind before) := by
  induction es generalizing p with
  | nil => rfl
  | cons e es ih =>
    rw [placeTokens, placeTokens, Place.after_behind, ih]
    split
    · rfl
    · rw [List.map_cons]
      congr 2
      exact p.spanOf_behind before e.text

end Lexer

/-! ## A semicolon on a line of its own -/

namespace DialectName

variable (n : DialectName) {s u : List Char}

/-- What stands between two texts that a semicolon on a line of its own separates. -/
def between : List Char := "\n;\n".toList

/-- A text that is cut to its end is cut alike before a semicolon on a line of its own, and so is
what comes behind. -/
theorem elements_behind (hend : (Lexer.elements n.lexer.rules s).2 = []) (u : List Char) :
    ∃ es, es.flatMap (·.text) = between ∧
      (∀ p, n.lexer.placeTokens p es = [⟨.semicolon, ";", (p.after ['\n']).spanOf [';']⟩]) ∧
      Lexer.elements n.lexer.rules (s ++ between ++ u) =
        ((Lexer.elements n.lexer.rules s).1 ++ (es ++ (Lexer.elements n.lexer.rules u).1),
          (Lexer.elements n.lexer.rules u).2) := by
  obtain ⟨first, hfirst, hfirstKind⟩ := n.takes_newline (';' :: '\n' :: u) trivial
  obtain ⟨second, hsecond, hsecondKind⟩ := n.takes_semicolon ('\n' :: u) trivial
  obtain ⟨third, hthird, hthirdKind⟩ := n.takes_newline u trivial
  have hfirstTrivia := Lexer.isTrivia_kindOf (l := n.lexer) ⟨first, ['\n']⟩
  have hsecondTrivia := Lexer.isTrivia_kindOf (l := n.lexer) ⟨second, [';']⟩
  have hthirdTrivia := Lexer.isTrivia_kindOf (l := n.lexer) ⟨third, ['\n']⟩
  rw [hfirstKind] at hfirstTrivia
  rw [hsecondKind] at hsecondTrivia
  rw [hthirdKind] at hthirdTrivia
  refine ⟨[⟨first, ['\n']⟩, ⟨second, [';']⟩, ⟨third, ['\n']⟩], rfl, fun p => ?_, ?_⟩
  · rw [Lexer.placeTokens, ← hfirstTrivia, Lexer.placeTokens, ← hsecondTrivia, hsecondKind,
      Lexer.placeTokens, ← hthirdTrivia]
    rfl
  · rw [List.append_assoc]
    show Lexer.elements n.rules (s ++ '\n' :: (';' :: '\n' :: u)) = _
    rw [Lexer.elements_before_line n.stopsAtLine_of_mem_rules (by cases n <;> rfl) hend]
    have hline : Lexer.elements n.rules ('\n' :: ';' :: '\n' :: u) = _ :=
      Lexer.elements_of_matched hfirst
    have hsemicolon : Lexer.elements n.rules (';' :: '\n' :: u) = _ :=
      Lexer.elements_of_matched hsecond
    have hnewline : Lexer.elements n.rules ('\n' :: u) = _ := Lexer.elements_of_matched hthird
    rw [hline, hsemicolon, hnewline]
    rfl

/-- No element of a text is the end. -/
theorem kind_ne_endOfFile {p : Place} {t : Token}
    (ht : t ∈ n.lexer.placeTokens p (Lexer.elements n.lexer.rules s).1) : t.kind ≠ .endOfFile := by
  have hmem : t.lexeme ∈ n.lexer.lexemesOf (Lexer.elements n.lexer.rules s).1 := by
    rw [← Lexer.map_lexeme_placeTokens p]
    exact List.mem_map_of_mem ht
  obtain ⟨e, he, -, hlexeme⟩ := Lexer.exists_element_of_mem_lexemesOf hmem
  have hkind : t.kind = n.lexer.kindOf e := congrArg Lexeme.kind hlexeme
  have hrules : ∀ r ∈ n.rules, r.kind ≠ .endOfFile := by
    cases n <;> decide
  rw [hkind]
  unfold Lexer.kindOf
  split
  · exact TokenKind.noConfusion
  · exact hrules e.rule (Lexer.exists_react_of_mem_elements he).1

end DialectName

namespace Lexer

variable {l : Lexer} {text : String}

/-- Whether a text has tokens is seen at what is left of it. -/
theorem lex_eq (l : Lexer) (text : String) :
    l.lex text =
      match obstacle? l.rules (elements l.rules text.toList).2 with
      | none => .ok (l.placeTokens .first (elements l.rules text.toList).1 ++
          [.endOfFile (Place.first.after
            ((elements l.rules text.toList).1.flatMap (·.text))).span])
      | some cause => .error ⟨cause, (Place.first.after
          ((elements l.rules text.toList).1.flatMap (·.text))).span⟩ := rfl

/-- A text that has tokens was cut to its end. -/
theorem of_lex_eq_ok {tokens : List Token} (h : l.lex text = .ok tokens) :
    (elements l.rules text.toList).2 = [] ∧
      (elements l.rules text.toList).1.flatMap (·.text) = text.toList ∧
      ∃ finish, tokens =
        l.placeTokens .first (elements l.rules text.toList).1 ++ [.endOfFile finish] := by
  have hparts := flatMap_elements_append l.rules text.toList
  rw [lex_eq] at h
  cases hobstacle : obstacle? l.rules (elements l.rules text.toList).2 with
  | none =>
    have hend := obstacle?_eq_none.1 hobstacle
    rw [hend, List.append_nil] at hparts
    rw [hobstacle] at h
    cases h
    exact ⟨hend, hparts, _, rfl⟩
  | some cause =>
    rw [hobstacle] at h
    cases h

end Lexer

/-- The tokens of a text end at the first end among them. -/
theorem DialectName.exists_front_of_lex (n : DialectName) {text : String} {tokens : List Token}
    (h : n.lexer.lex text = .ok tokens) :
    ∃ front finish, tokens = front ++ [.endOfFile finish] ∧ ∀ t ∈ front, t.kind ≠ .endOfFile := by
  obtain ⟨-, -, finish, rfl⟩ := Lexer.of_lex_eq_ok h
  exact ⟨_, finish, rfl, fun t ht => n.kind_ne_endOfFile ht⟩

/-- **A text behind another is cut as it is cut alone**, if the other is cut to its end and a
semicolon on a line of its own stands between them. -/
theorem DialectName.lex_behind (n : DialectName) {text : String} {tokens : List Token}
    (h : n.lexer.lex text = .ok tokens) :
    ∃ front finish semicolon, tokens = front ++ [.endOfFile finish] ∧
      (∀ t ∈ front, t.kind ≠ .endOfFile) ∧ semicolon.kind = .semicolon ∧
      ∀ later, n.lexer.lex (text ++ "\n;\n" ++ later) =
        ((n.lexer.lex later).map fun ts =>
          front ++ semicolon :: ts.map (Token.behind (text ++ "\n;\n").toList)).mapError
          (LexError.behind (text ++ "\n;\n").toList) := by
  obtain ⟨hend, hparts, finish, rfl⟩ := Lexer.of_lex_eq_ok h
  refine ⟨_, finish, ⟨.semicolon, ";", (Place.first.after (text.toList ++ ['\n'])).spanOf [';']⟩,
    rfl, fun t ht => n.kind_ne_endOfFile ht, rfl, fun later => ?_⟩
  obtain ⟨es, hes, hplaced, hcut⟩ := n.elements_behind hend later.toList
  have hbefore : (text ++ "\n;\n").toList = text.toList ++ between := String.toList_append ..
  have hwhole : (text ++ "\n;\n" ++ later).toList = text.toList ++ between ++ later.toList := by
    rw [String.toList_append, hbefore]
  have hfirst : (Place.first.after text.toList).after between =
      Place.first.behind (text.toList ++ between) := by
    have hline := Place.first_after_line (text.toList ++ ['\n', ';'])
    rw [List.append_assoc] at hline
    rw [← Place.after_append]
    exact hline
  have hfinish : ∀ u, Place.first.after (text.toList ++ (between ++ u)) =
      (Place.first.after u).behind (text.toList ++ between) := by
    intro u
    rw [Place.after_append, Place.after_append, hfirst, Place.after_behind]
  have hplace : ∀ later, n.lexer.placeTokens .first
      ((Lexer.elements n.lexer.rules text.toList).1 ++ (es ++ later)) =
      n.lexer.placeTokens .first (Lexer.elements n.lexer.rules text.toList).1 ++
        ⟨.semicolon, ";", (Place.first.after (text.toList ++ ['\n'])).spanOf [';']⟩ ::
          (n.lexer.placeTokens .first later).map (Token.behind (text.toList ++ between)) := by
    intro later
    rw [Lexer.placeTokens_append, hparts, Lexer.placeTokens_append, hplaced, hes, hfirst,
      Lexer.placeTokens_behind, Place.after_append]
    rfl
  rw [Lexer.lex_eq, Lexer.lex_eq, hwhole, hbefore, hcut, hplace, List.flatMap_append,
    List.flatMap_append, hparts, hes, hfinish]
  cases Lexer.obstacle? n.lexer.rules (Lexer.elements n.lexer.rules later.toList).2 with
  | none =>
    show Except.ok _ = Except.ok (_ ++ _ :: List.map _ (_ ++ _))
    rw [List.map_append, List.append_assoc]
    rfl
  | some cause => rfl

end SqlDialects
