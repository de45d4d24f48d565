import SqlDialects.Proofs.RoundTrip.Written

/-!
# Names, literals, operators and brackets come back

The forms of expression that hold no call and no query.  The leaves come first,
each a primary of its own; then operators, where the text has to keep two minus
signs apart; then brackets.
-/

namespace SqlDialects

variable {n : DialectName} {d : Dialect}

/-! ## Names -/

namespace Grammar

theorem unaryOperator?_of_kind {t : Token} (hkeyword : t.kind ≠ .keyword) (hminus : t.kind ≠ .minus)
    (hplus : t.kind ≠ .plus) : unaryOperator? t = none := by
  unfold unaryOperator?
  cases h : t.kind <;> first | rfl | contradiction

/-- A dotted name is read as a primary. -/
theorem readsOperand_column (hd : n.Makes d) {ids : List Identifier} (hne : ids ≠ []) :
    ReadsOperand d (DialectName.dotted d ids) (columnOf (ids.map d.canonIdentifier)) 9 := by
  obtain ⟨id, rest, rfl⟩ := List.exists_cons_of_ne_nil hne
  have hkind := d.kind_nameLexeme id
  refine readsOperand_primary ⟨_, _, rfl, ?_⟩ fun nested k _ => ?_
  · exact unaryOperator?_of_kind (d.kind_nameLexeme_ne id (by decide) (by decide))
      (d.kind_nameLexeme_ne id (by decide) (by decide))
      (d.kind_nameLexeme_ne id (by decide) (by decide))
  · have hcolumn := (reads_column hd hne (k + 1)).mono (G := EndsPrimary) (Nat.le_refl _)
      fun next hnext => hnext.2
    refine Reads.peek_bind fun t next _ ht => ?_
    have ht : t.kind = (d.nameLexeme id).kind := congrArg Lexeme.kind ht
    rw [ht]
    rcases hkind with hkind | hkind
    · rw [hkind]
      refine Reads.peekAhead_bind fun t next hnext ht => ?_
      have ht : t.kind ≠ .startBracket := by
        have hkind' : t.kind = _ := congrArg Lexeme.kind ht
        rw [hkind']
        cases rest with
        | nil => exact hnext.1
        | cons id' rest => exact fun h => by cases h
      rw [beq_eq_false_iff_ne.2 ht]
      exact hcolumn
    · rw [hkind]
      exact hcolumn

end Grammar

theorem startsOperand_nameLexeme (d : Dialect) (id : Identifier) :
    StartsOperand (d.nameLexeme id) :=
  startsOperand_of_kind (d.kind_nameLexeme_ne id (by decide) (by decide))
    (d.kind_nameLexeme_ne id (by decide) (by decide))

/-- The spelling of a dotted name. -/
def Spelling.dotted (d : Dialect) (ids : List Identifier) : Spelling :=
  ⟨String.intercalate "." (ids.map d.writeIdentifier), DialectName.dotted d ids⟩

theorem writtenOperand_identifier (hd : n.Makes d) (id : Identifier) :
    WrittenOperand n d (.identifier id) (.dotted d [id]) where
  renders := by
    rw [hd.render_plain _ rfl]
    show Except.ok (d.writeIdentifier id) = .ok (String.intercalate "." [d.writeIdentifier id])
    rw [String.intercalate_singleton]
  spells := DialectName.spells_dotted hd (List.cons_ne_nil id [])
  first := ⟨_, _, rfl, startsOperand_nameLexeme d id⟩
  reads := Grammar.readsOperand_column hd (List.cons_ne_nil id [])

theorem writtenOperand_compound (hd : n.Makes d) {parts : List Identifier}
    (hparts : 2 ≤ parts.length) : WrittenOperand n d (.compound parts) (.dotted d parts) := by
  obtain ⟨id, id', rest, rfl⟩ : ∃ id id' rest, parts = id :: id' :: rest := by
    match parts, hparts with
    | id :: id' :: rest, _ => exact ⟨id, id', rest, rfl⟩
  have hne := List.cons_ne_nil id (id' :: rest)
  have hread := Grammar.readsOperand_column hd hne
  refine ⟨?_, DialectName.spells_dotted hd hne, ⟨_, _, rfl, startsOperand_nameLexeme d id⟩, hread⟩
  rw [hd.render_plain _ rfl]
  rfl

/-! ## Literals -/

/-- A literal that has no dialect's own form. -/
theorem Render.outcome_literal (hd : n.Makes d) {value : Literal} {text : String}
    (htext : d.writeLiteral? value = some text) (hhex : ∀ digits, value ≠ .hex digits)
    (hbits : ∀ digits, value ≠ .bits digits) :
    (d.render (.literal value)).outcome = .ok text := by
  have hplain : (Render.plain d (.literal value)).outcome = .ok text := by
    unfold Render.plain
    simp only [htext]
    rfl
  have hown : Render.own d .literal (.literal value) = Render.plain d (.literal value) := by
    cases value with
    | hex digits => exact absurd rfl (hhex digits)
    | bits digits => exact absurd rfl (hbits digits)
    | number text => rfl
    | string value => rfl
    | boolean value => rfl
    | null => rfl
  cases n with
  | ansi =>
    rw [hd.render_of_find?_eq_none (.literal value) rfl]
    exact hplain
  | bigquery =>
    rw [hd.render_of_find?_eq_none (.literal value) rfl]
    exact hplain
  | clickhouse =>
    rw [hd.outcome_render_own (.literal value) (r := .literal) rfl]
    exact (congrArg Traced.outcome hown).trans hplain

namespace Grammar

/-- A literal of one token, by what the parser makes of the token. -/
theorem readsOperand_single {l : Lexeme} {value : Literal} (hop : unaryOperator? l.token = none)
    (hread : ∀ nested k, Reads (k + 1) (primary d nested) [l] (.literal value) AnyNext) :
    ReadsOperand d [l] (.literal value) 9 :=
  readsOperand_primary ⟨l, [], rfl, hop⟩ fun nested k _ =>
    (hread nested k).mono (Nat.le_refl _) fun _ _ => trivial

theorem keywordLiteral?_lexeme (t : Token) : keywordLiteral? t = keywordLiteral? t.lexeme.token :=
  rfl

/-- A keyword that is a literal is read as it. -/
theorem readsOperand_keyword {w : String} {value : Literal}
    (hvalue : keywordLiteral? (Lexeme.keyword w).token = some value)
    (hop : unaryOperator? (Lexeme.keyword w).token = none) :
    ReadsOperand d [.keyword w] (.literal value) 9 := by
  refine readsOperand_single hop fun nested k => ?_
  refine Reads.peek_bind fun t next _ ht => ?_
  have hkind : t.kind = .keyword := congrArg Lexeme.kind ht
  have ht : t.lexeme = .keyword w := ht
  rw [hkind]
  simp only [keywordLiteral?_lexeme t, ht, hvalue]
  exact Reads.discard_advance_bind (fun h => by cases h) (Reads.pure k _ _) (Nat.le_refl _)

end Grammar

/-- The spelling of a literal. -/
def Spelling.literal (d : Dialect) : Literal → Spelling
  | .number text => ⟨text, [⟨.numericLiteral, text⟩]⟩
  | .string value => ⟨d.writeString value, [⟨.stringLiteral, d.writeString value⟩]⟩
  | .hex digits => ⟨"0x" ++ digits, [⟨.hexStringLiteral, "0x" ++ digits⟩]⟩
  | .bits digits => ⟨"0b" ++ digits, [⟨.bitStringLiteral, "0b" ++ digits⟩]⟩
  | .boolean value =>
    ⟨if value then "TRUE" else "FALSE", [.keyword (if value then "TRUE" else "FALSE")]⟩
  | .null => ⟨"NULL", [.keyword "NULL"]⟩

theorem spells_literal (hd : n.Makes d) {value : Literal} (h : ReadableLiteral n value) :
    n.lexer.Spells (Spelling.literal d value).text (Spelling.literal d value).lexemes := by
  cases value with
  | number text => exact DialectName.spells_numeral h
  | string value => exact DialectName.spells_string hd value
  | hex digits =>
    obtain ⟨rfl, hdigits⟩ := h
    have htakes := DialectName.takes_hex (Or.inl rfl) hdigits
    have htoList : ("0x" ++ digits).toList = '0' :: 'x' :: digits.toList := String.toList_append
    rw [← htoList] at htakes
    exact DialectName.spells_of_takes htakes (DialectName.endsDigits_of_closes (by decide)) rfl
  | bits digits =>
    obtain ⟨rfl, hdigits⟩ := h
    have htakes := DialectName.takes_bits hdigits
    have htoList : ("0b" ++ digits).toList = '0' :: 'b' :: digits.toList := String.toList_append
    rw [← htoList] at htakes
    exact DialectName.spells_of_takes htakes (DialectName.endsDigits_of_closes (by decide)) rfl
  | boolean value =>
    cases value with
    | true => exact DialectName.spells_keyword (w := "TRUE") (by decide)
    | false => exact DialectName.spells_keyword (w := "FALSE") (by decide)
  | null => exact DialectName.spells_keyword (w := "NULL") (by decide)

theorem startsOperand_literal (d : Dialect) (value : Literal) :
    ∃ l, (Spelling.literal d value).lexemes = [l] ∧ StartsOperand l := by
  cases value with
  | number text => exact ⟨_, rfl, startsOperand_of_kind nofun nofun⟩
  | string value => exact ⟨_, rfl, startsOperand_of_kind nofun nofun⟩
  | hex digits => exact ⟨_, rfl, startsOperand_of_kind nofun nofun⟩
  | bits digits => exact ⟨_, rfl, startsOperand_of_kind nofun nofun⟩
  | boolean value =>
    refine ⟨_, rfl, ?_⟩
    cases value <;> exact ⟨by decide +kernel, by decide +kernel, nofun⟩
  | null => exact ⟨_, rfl, by decide +kernel, by decide +kernel, nofun⟩

theorem readsOperand_literal (hd : n.Makes d) (value : Literal) :
    Grammar.ReadsOperand d (Spelling.literal d value).lexemes (.literal value) 9 := by
  cases value with
  | number text =>
    refine Grammar.readsOperand_single rfl fun nested k => Reads.peek_bind fun t next _ ht => ?_
    have hkind : t.kind = .numericLiteral := congrArg Lexeme.kind ht
    have htext : t.text = text := congrArg Lexeme.text ht
    rw [hkind, htext]
    exact Reads.discard_advance_bind nofun (Reads.pure k _ _) (Nat.le_refl _)
  | string value =>
    refine Grammar.readsOperand_single rfl fun nested k => Reads.peek_bind fun t next _ ht => ?_
    have hkind : t.kind = .stringLiteral := congrArg Lexeme.kind ht
    rw [hkind]
    refine Reads.discard_advance_bind nofun ?_ (Nat.le_refl _)
    rw [Grammar.stringValue_of_lexeme hd ht]
    exact Reads.pure k _ _
  | hex digits =>
    refine Grammar.readsOperand_single rfl fun nested k => Reads.peek_bind fun t next _ ht => ?_
    have hkind : t.kind = .hexStringLiteral := congrArg Lexeme.kind ht
    have htext : t.text = "0x" ++ digits := congrArg Lexeme.text ht
    rw [hkind]
    refine Reads.discard_advance_bind nofun ?_ (Nat.le_refl _)
    rw [Grammar.digitsOf_of_toList "0x".toList (by decide) (htext ▸ String.toList_append),
      String.ofList_toList]
    exact Reads.pure k _ _
  | bits digits =>
    refine Grammar.readsOperand_single rfl fun nested k => Reads.peek_bind fun t next _ ht => ?_
    have hkind : t.kind = .bitStringLiteral := congrArg Lexeme.kind ht
    have htext : t.text = "0b" ++ digits := congrArg Lexeme.text ht
    rw [hkind]
    refine Reads.discard_advance_bind nofun ?_ (Nat.le_refl _)
    rw [Grammar.digitsOf_of_toList "0b".toList (by decide) (htext ▸ String.toList_append),
      String.ofList_toList]
    exact Reads.pure k _ _
  | boolean value =>
    cases value <;> exact Grammar.readsOperand_keyword (by decide +kernel) (by decide +kernel)
  | null => exact Grammar.readsOperand_keyword (by decide +kernel) (by decide +kernel)

theorem Dialect.outcome_render_literal (hd : n.Makes d) {value : Literal}
    (h : ReadableLiteral n value) :
    (d.render (.literal value)).outcome = .ok (Spelling.literal d value).text := by
  cases value with
  | number text => exact Render.outcome_literal hd rfl nofun nofun
  | string value => exact Render.outcome_literal hd rfl nofun nofun
  | boolean value => exact Render.outcome_literal hd rfl nofun nofun
  | null => exact Render.outcome_literal hd rfl nofun nofun
  | hex digits =>
    obtain ⟨rfl, -⟩ := h
    exact hd.outcome_render_own (.literal (.hex digits)) (r := .literal) rfl
  | bits digits =>
    obtain ⟨rfl, -⟩ := h
    exact hd.outcome_render_own (.literal (.bits digits)) (r := .literal) rfl

theorem writtenOperand_literal (hd : n.Makes d) {value : Literal} (h : ReadableLiteral n value) :
    WrittenOperand n d (.literal value) (.literal d value) where
  renders := Dialect.outcome_render_literal hd h
  spells := spells_literal hd h
  first := by
    obtain ⟨l, hls, hl⟩ := startsOperand_literal d value
    exact ⟨l, [], hls, hl⟩
  reads := readsOperand_literal hd value

theorem writtenOperand_star (hd : n.Makes d) :
    WrittenOperand n d .star ⟨"*", [.operator .multiply]⟩ where
  renders := by
    rw [hd.render_plain _ rfl]
    rfl
  spells := DialectName.spells_operator .multiply
  first := ⟨_, _, rfl, startsOperand_of_kind nofun nofun⟩
  reads := by
    refine Grammar.readsOperand_primary ⟨_, _, rfl, rfl⟩ fun nested k _ => ?_
    refine Reads.peek_bind fun t next _ ht => ?_
    have hkind : t.kind = .star := congrArg Lexeme.kind ht
    rw [hkind]
    exact Reads.discard_advance_bind nofun (Reads.pure k _ _) (Nat.le_refl _)

/-! ## Operators -/

/-- A binary operation comes back if its operands need no brackets. -/
theorem writtenOperand_binary (hd : n.Makes d) {left right : Expr} {s t : Spelling}
    {op : BinaryOperator} (hleft : WrittenOperand n d left s) (hright : WrittenOperand n d right t)
    (hopen : Render.needsBrackets left op.precedence false = false)
    (hopen' : Render.needsBrackets right op.precedence true = false) :
    WrittenOperand n d (.binary left op right)
      ⟨s.text ++ " " ++ op.symbol ++ " " ++ t.text, s.lexemes ++ .operator op :: t.lexemes⟩ where
  renders := by
    have hop := op.precedence_le
    have hl := Render.outcome_operand (c := (left, d.render left)) hleft.renders hopen
    have hr := Render.outcome_operand (c := (right, d.render right)) hright.renders hopen'
    rw [hd.render_plain _ rfl]
    refine (Traced.outcome_bind_of_ok hl _).trans ?_
    exact Traced.outcome_bind_of_ok hr _
  spells := by
    have hspells := DialectName.spells_spaced
      (DialectName.spells_spaced hleft.spells (DialectName.spells_operator op)) hright.spells
    rwa [List.append_assoc] at hspells
  first := by
    obtain ⟨l, ms, hls, hl⟩ := hleft.first
    exact ⟨l, ms ++ .operator op :: t.lexemes, by rw [hls]; rfl, hl⟩
  reads := by
    have hop := op.precedence_le
    have hread := Grammar.readsOperand_binary hleft.reads hright.reads
      (Expr.le_strength (by omega) hopen) (Expr.lt_strength (by omega) hopen')
    exact hread

/-- What an operator before an operand is written as. -/
theorem spells_prefixed {op : UnaryOperator} {s : String} {ls : List Lexeme}
    (h : n.lexer.Spells s ls) :
    n.lexer.Spells (Render.prefixed op s) (.prefixOperator op :: ls) := by
  cases op with
  | not =>
    have hnot : n.lexer.Spells "NOT" [.keyword "NOT"] := DialectName.spells_keyword (by decide)
    exact DialectName.spells_spaced hnot h
  | minus =>
    have hcuts : n.lexer.Cuts (fun o => o ≠ some '-') "-".toList [.prefixOperator .minus] :=
      n.takes_minus.cuts
    unfold Render.prefixed
    by_cases hhead : s.toList.head? = some '-'
    · have hminus : n.lexer.Spells "-" [.prefixOperator .minus] :=
        ⟨⟨'-', rfl, by decide⟩, hcuts.mono (Closes.forall nofun nofun nofun nofun)⟩
      simp only [hhead, if_true]
      exact DialectName.spells_spaced hminus h
    · simp only [hhead, if_false]
      refine ⟨⟨'-', String.toList_append ▸ rfl, by decide⟩, ?_⟩
      refine hcuts.append_toList h.cuts fun o _ => ?_
      obtain ⟨c, hc, -⟩ := h.starts
      rw [hc] at hhead ⊢
      exact hhead
  | plus =>
    have hcuts : n.lexer.Cuts DialectName.Anything "+".toList [.prefixOperator .plus] :=
      n.takes_plus.cuts
    refine ⟨⟨'+', String.toList_append ▸ rfl, by decide⟩, ?_⟩
    exact hcuts.append_toList h.cuts fun _ _ => trivial

theorem startsOperand_prefixOperator (op : UnaryOperator) : StartsOperand (.prefixOperator op) := by
  cases op with
  | not => exact ⟨by decide +kernel, by decide +kernel, nofun⟩
  | minus => exact startsOperand_of_kind nofun nofun
  | plus => exact startsOperand_of_kind nofun nofun

/-- An operator before an operand comes back if the operand needs no brackets. -/
theorem writtenOperand_unary (hd : n.Makes d) {inner : Expr} {s : Spelling} {op : UnaryOperator}
    (hinner : WrittenOperand n d inner s)
    (hopen : Render.needsBrackets inner op.precedence false = false) :
    WrittenOperand n d (.unary op inner)
      ⟨Render.prefixed op s.text, .prefixOperator op :: s.lexemes⟩ where
  renders := by
    have hi := Render.outcome_operand (c := (inner, d.render inner)) hinner.renders hopen
    rw [hd.render_plain _ rfl]
    exact Traced.outcome_bind_of_ok hi _
  spells := spells_prefixed hinner.spells
  first := ⟨_, _, rfl, startsOperand_prefixOperator op⟩
  reads := Grammar.readsOperand_unary hinner.reads
    (Expr.le_strength (by cases op <;> decide) hopen)

/-! ## Brackets -/

theorem writtenOperand_bracketed {items : List (Expr × Spelling)} {e : Expr}
    (h : ∀ i ∈ items, WrittenOperand n d i.1 i.2)
    (hrenders : (d.render e).outcome = .ok (Spelling.commas items).bracketed.text)
    (hcanon : d.canon e = Grammar.bracketedOf (items.map fun i => d.canon i.1))
    (hstrength : e.strength = 9) : WrittenOperand n d e (Spelling.commas items).bracketed where
  renders := hrenders
  spells := DialectName.spells_bracketed (Spelling.cuts_commas fun i hi => (h i hi).spells)
  first := ⟨_, _, rfl, Grammar.startsOperand_startBracket⟩
  reads := by
    rw [hstrength, hcanon]
    exact Grammar.readsOperand_bracketed h

theorem writtenOperand_paren (hd : n.Makes d) {inner : Expr} {s : Spelling}
    (hinner : WrittenOperand n d inner s) :
    WrittenOperand n d (.paren inner) s.bracketed := by
  have hrenders : (d.render (.paren inner)).outcome = .ok s.bracketed.text := by
    rw [hd.render_plain _ rfl]
    exact Traced.outcome_bind_of_ok hinner.renders _
  rw [← Spelling.commas_singleton inner s] at hrenders ⊢
  exact writtenOperand_bracketed (List.forall_mem_singleton.2 hinner) hrenders rfl rfl

theorem writtenOperand_tuple (hd : n.Makes d) {items : List (Expr × Spelling)}
    (h : ∀ i ∈ items, WrittenOperand n d i.1 i.2) (hlength : items.length ≠ 1) :
    WrittenOperand n d (.tuple (items.map (·.1))) (Spelling.commas items).bracketed := by
  refine writtenOperand_bracketed h ?_ ?_ rfl
  · have hlist := Render.outcome_called "" (fun i : Expr × Spelling => (i.1, d.render i.1))
      fun i hi => (h i hi).renders
    rw [hd.render_plain _ rfl]
    show (Render.called "" ((items.map (·.1)).map _)).outcome = _
    rw [List.map_map]
    exact hlist
  · rw [Dialect.canon_mk]
    show Expr.tuple ((items.map (·.1)).map d.canon) = _
    rw [List.map_map]
    match items, hlength with
    | [], _ => rfl
    | _ :: _ :: _, _ => rfl

end SqlDialects
