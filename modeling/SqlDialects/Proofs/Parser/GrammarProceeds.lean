import SqlDialects.Proofs.Parser.Proceeds

/-!
# The grammar gets on

One lemma for each parser of the grammar, in the order of the grammar.  Names, types,
operands and queries take a token wherever they give something.  A parser with nested
ones proceeds under the limit of these, or under one more, if it takes a token before
it calls on them: so do the layers that are nested in themselves, and that is what
`Proceeds.of_descend` asks for.
-/

namespace SqlDialects
namespace Grammar

variable {G : Token → Prop} {d : Dialect} {k m : Nat} {t : Token}

/-! ## Names -/

theorem proceeds_stringValue (ht : G t) (hkind : t.kind = .stringLiteral) :
    Proceeds G m (stringValue d t) fun _ => False := by
  by_cases hintact : t.lexeme.Intact
  · obtain ⟨body, hbody⟩ :
        ∃ body, Text.slice? 1 (Text.byteLength t.text.toList - 1) t.text.toList = some body :=
      hintact.string hkind
    unfold stringValue Quoting.readString?
    dsimp only
    rw [hbody]
    exact Proceeds.pure id
  · unfold stringValue
    split
    · exact Proceeds.broken ht hintact _
    · exact Proceeds.pure id

theorem proceeds_digitsOf (ht : G t)
    (hkind : t.kind = .hexStringLiteral ∨ t.kind = .bitStringLiteral) :
    Proceeds G m (digitsOf t) fun _ => False := by
  by_cases hintact : t.lexeme.Intact
  · obtain ⟨mark, digits, hcut⟩ :
        ∃ mark digits, Text.splitAtByte? 2 t.text.toList = some (mark, digits) :=
      hintact.digits hkind
    unfold digitsOf
    rw [hcut]
    exact Proceeds.pure id
  · unfold digitsOf
    split
    · exact Proceeds.broken ht hintact _
    · exact Proceeds.pure id

theorem proceeds_identifier : Proceeds G m identifier fun _ => True := by
  refine Proceeds.peek_bind fun t _ => ?_
  cases hkind : t.kind
  case word =>
    exact Proceeds.advance_bind_at (Nat.le_succ m) (by rw [hkind]; decide) (Proceeds.pure id)
  case quotedIdentifier =>
    exact Proceeds.advance_bind_at (Nat.le_succ m) (by rw [hkind]; decide) (Proceeds.pure id)
  all_goals exact (Proceeds.unexpected _ _).at_of

theorem proceeds_column : Proceeds G m column fun _ => True := by
  have hround : Proceeds G m
      (do if ← Parser.consume .dot then return some (← identifier) else return none)
      (· ≠ none) :=
    (Proceeds.consume TokenKind.noConfusion).bind_bool
      (proceeds_identifier.free.bind fun _ => Proceeds.pure id) (Proceeds.pure fun h => h rfl)
  exact proceeds_identifier.bind_taken (Nat.le_succ m) fun first =>
    (Proceeds.many hround).bind fun rest => Proceeds.pure id

theorem proceeds_binding (implicit : Bool) : Proceeds G m (binding implicit) fun _ => False := by
  have hname : Proceeds G m (do return some (← identifier)) fun _ => False :=
    proceeds_identifier.free.bind fun _ => Proceeds.pure id
  refine (Proceeds.consumeKeyword "AS").bind_bool hname (Proceeds.peek_bind fun t _ => ?_)
  show ProceedsAt G t m (if _ then _ else _) _
  split
  · exact hname.at_of
  · exact (Proceeds.pure id).at_of

/-! ## Types -/

section Types

variable {nested : Parser DataType} (h : Proceeds G m nested fun _ => True)

include h

theorem proceeds_typeParam : Proceeds G m (typeParam d nested) fun _ => True := by
  have htype : Proceeds G m (do return TypeParam.type (← nested)) fun _ => True :=
    h.bind_taken (Nat.le_succ m) fun _ => Proceeds.pure id
  refine Proceeds.peek_bind fun t ht => ?_
  cases hkind : t.kind
  case numericLiteral =>
    exact Proceeds.advance_bind_at (Nat.le_succ m) (by rw [hkind]; decide) (Proceeds.pure id)
  case stringLiteral =>
    exact Proceeds.advance_bind_at (Nat.le_succ m) (by rw [hkind]; decide)
      ((proceeds_stringValue ht hkind).bind fun _ => Proceeds.pure id)
  case word => exact htype.at_of
  case keyword => exact htype.at_of
  all_goals exact (Proceeds.unexpected _ _).at_of

theorem proceeds_typeLayer : Proceeds G (m + 1) (typeLayer d nested) fun _ => True := by
  have hrest : ∀ name : String, Proceeds G m (do
      let params ← if ← Parser.consume .startBracket then
        Parser.csvToEndBracket (typeParam d nested) else pure []
      return DataType.mk (d.canonicalType name) params) fun _ => False := by
    intro name
    refine (Proceeds.consume TokenKind.noConfusion).bind_bool ?_ (Proceeds.pure id)
    exact (Proceeds.csvToEndBracket (proceeds_typeParam h)).free.bind fun _ => Proceeds.pure id
  refine Proceeds.peek_bind fun t _ => ?_
  cases hkind : t.kind
  case word =>
    exact Proceeds.advance_bind_at (Nat.le_refl _) (by rw [hkind]; decide) (hrest t.key)
  case keyword =>
    exact Proceeds.advance_bind_at (Nat.le_refl _) (by rw [hkind]; decide) (hrest t.key)
  all_goals exact (Proceeds.unexpected _ _).at_of

end Types

theorem proceeds_dataType : Proceeds G m (dataType d) fun _ => True := by
  refine Proceeds.of_descend (p := fun _ : Unit => dataType d) (fun c hc _ h _ => ?_) ()
  rw [dataType]
  exact proceeds_typeLayer (h ()) c hc (Nat.lt_succ_self _)

/-! ## Calls -/

section Nested

variable {nested : Nat → Parser Expr} (h : ∀ least, Proceeds G m (nested least) fun _ => True)

include h

theorem proceeds_namedExpression : Proceeds G m (namedExpression nested) fun _ => True :=
  (h 0).bind_taken (Nat.le_succ m) fun _ => (proceeds_binding false).bind fun _ => Proceeds.pure id

theorem proceeds_arguments :
    Proceeds G m (Parser.csvToEndBracket (nested 0)) fun _ => False :=
  (Proceeds.csvToEndBracket (h 0)).free

theorem proceeds_plainCall : Proceeds G m (plainCall d nested t) fun _ => False := by
  refine (proceeds_arguments h).bind fun args => ?_
  cases d.callBuilders.find? t.key with
  | some builder => exact Proceeds.built t _
  | none => exact Proceeds.pure id

theorem proceeds_castCall : Proceeds G m (castCall d nested) fun _ => False := by
  refine (h 0).free.bind fun this => (Proceeds.expectKeyword "AS").discard.bind fun _ => ?_
  refine proceeds_dataType.free.bind fun target => ?_
  exact (Proceeds.expect .endBracket _).discard.bind fun _ => Proceeds.pure id

theorem proceeds_quantileCall : Proceeds G m (quantileCall nested t) fun _ => False := by
  refine (proceeds_arguments h).bind fun params => ?_
  refine (Proceeds.consume TokenKind.noConfusion).bind_bool ?_ ?_
  · refine (Proceeds.built t _).bind fun level => (proceeds_arguments h).bind fun args => ?_
    exact (Proceeds.built t _).bind fun this => Proceeds.pure id
  · show Proceeds G m (if params.isEmpty then _ else _) _
    split
    · exact Proceeds.pure id
    · exact (Proceeds.built t _).bind fun this => Proceeds.pure id

theorem proceeds_callRest (callSyntax : CallSyntax) :
    Proceeds G m (callRest d nested t callSyntax) fun _ => False := by
  cases callSyntax with
  | plain => exact proceeds_plainCall h
  | struct =>
    exact (Proceeds.csvToEndBracket (proceeds_namedExpression h)).free.bind fun _ =>
      Proceeds.pure id
  | cast => exact proceeds_castCall h
  | tuple => exact (proceeds_arguments h).bind fun _ => Proceeds.pure id
  | quantile => exact proceeds_quantileCall h

theorem proceeds_call : Proceeds G (m + 1) (call d nested) fun _ => True := by
  have hname : Proceeds G (m + 1) (Parser.expect .word "function name") fun _ => True :=
    (Proceeds.expect .word _).weaken fun _ _ => TokenKind.noConfusion
  refine hname.bind_taken (Nat.le_refl _) fun name => ?_
  refine (Proceeds.expect .startBracket _).free.discard.bind fun _ => ?_
  cases d.callSyntaxes.find? name.key with
  | some callSyntax => exact Proceeds.note_bind _ (proceeds_callRest h callSyntax)
  | none => exact proceeds_plainCall h

/-! ## Queries -/

theorem proceeds_projection : Proceeds G m (projection nested) fun _ => True :=
  (h 0).bind_taken (Nat.le_succ m) fun _ => (proceeds_binding true).bind fun _ => Proceeds.pure id

theorem proceeds_sortKey : Proceeds G m (sortKey nested) fun _ => True := by
  refine (h 0).bind_taken (Nat.le_succ m) fun this => ?_
  refine (Proceeds.consumeKeyword "ASC").bind_bool (Proceeds.pure id) ?_
  exact (Proceeds.consumeKeyword "DESC").bind_bool (Proceeds.pure id) (Proceeds.pure id)

omit h in
theorem proceeds_tableModifier? : Proceeds G m (tableModifier? d) (· ≠ none) := by
  refine Proceeds.peek_bind fun t _ => ?_
  split
  · rename_i hkeyword
    cases d.tableModifiers.find? t.key with
    | some modifier =>
      refine Proceeds.discard_advance_bind_at (Nat.le_succ m) ?_ (Proceeds.pure id)
      rw [beq_iff_eq.1 hkeyword]
      decide
    | none => exact (Proceeds.pure fun hne => hne rfl).at_of
  · exact (Proceeds.pure fun hne => hne rfl).at_of

omit h in
theorem proceeds_table {inner : Parser (Query Expr)} (hinner : Proceeds G m inner fun _ => True) :
    Proceeds G m (table d inner) fun _ => False := by
  have hrest : ∀ this, Proceeds G m (do
      let name ← binding true
      let modifiers ← Parser.many (tableModifier? d)
      return modifiers.foldl (fun e m => m.apply e) (bind this name)) fun _ => False := fun this =>
    (proceeds_binding true).bind fun name =>
      (Proceeds.many proceeds_tableModifier?).bind fun modifiers => Proceeds.pure id
  have hcolumn := (proceeds_column (m := m)).bind hrest
  refine Proceeds.check_peekAhead_bind (fun t next hkind => ?_) fun next => hcolumn
  show ProceedsAt G t m (if next.isKeyword "SELECT" then _ else _) _
  split
  · refine Proceeds.discard_advance_bind_at (Nat.le_succ m) (by rw [hkind]; decide) ?_
    refine hinner.free.bind fun q => ?_
    exact (Proceeds.expect .endBracket _).discard.bind fun _ => hrest _
  · exact hcolumn.at_of

omit h in
theorem proceeds_clause {α : Type} (word : String) {rest : Parser α} {V : α → Prop}
    (hrest : Proceeds G m rest V) : Proceeds G m (clause word rest) fun _ => False :=
  (Proceeds.consumeKeyword word).bind_bool (hrest.free.bind fun _ => Proceeds.pure id)
    (Proceeds.pure id)

omit h in
theorem proceeds_clauseBy {α : Type} (word : String) {item : Parser α}
    (hitem : Proceeds G m item fun _ => True) :
    Proceeds G m (clauseBy word item) fun _ => False :=
  (Proceeds.consumeKeyword word).bind_bool
    ((Proceeds.expectKeyword "BY").discard.bind fun _ => (Proceeds.csv hitem).free)
    (Proceeds.pure id)

theorem proceeds_queryLayer {inner : Parser (Query Expr)}
    (hinner : Proceeds G m inner fun _ => True) :
    Proceeds G (m + 1) (queryLayer d nested inner) fun _ => True := by
  refine (Proceeds.expectKeyword "SELECT").discard.bind_taken (Nat.le_refl _) fun _ => ?_
  refine (Proceeds.consumeKeyword "DISTINCT").bind fun distinct => ?_
  refine (Proceeds.csv (proceeds_projection h)).bind fun projections => ?_
  refine (proceeds_clause "FROM" (proceeds_table hinner)).bind fun source => ?_
  refine (proceeds_clause "WHERE" (h 0)).bind fun filter => ?_
  refine (proceeds_clauseBy "GROUP" (h 0)).bind fun groupBy => ?_
  refine (proceeds_clause "HAVING" (h 0)).bind fun having => ?_
  refine (proceeds_clauseBy "ORDER" (proceeds_sortKey h)).bind fun orderBy => ?_
  exact (proceeds_clause "LIMIT" (h 0)).bind fun limit => Proceeds.pure id

/-- **A query gets on**, if its operands do. -/
theorem proceeds_query : Proceeds G (m + 1) (query d nested) fun _ => True := by
  refine Proceeds.of_descend (p := fun _ : Unit => query d nested) (fun c hc hlt hinner _ => ?_) ()
  rw [query]
  exact proceeds_queryLayer (fun least => (h least).mono (Nat.le_of_lt_succ hlt)) (hinner ()) c hc
    (Nat.lt_succ_self _)

/-! ## Operands and operations -/

theorem proceeds_bracketed : Proceeds G (m + 1) (bracketed d nested) fun _ => True := by
  have hopens : Proceeds G (m + 1) (Parser.expect .startBracket "'('") fun _ => True :=
    (Proceeds.expect .startBracket _).weaken fun _ _ => TokenKind.noConfusion
  refine hopens.discard.bind_taken (Nat.le_refl _) fun _ => ?_
  refine (Proceeds.checkKeyword _).bind fun isQuery => ?_
  cases isQuery with
  | true =>
    refine ((proceeds_query h).mono (Nat.le_succ m)).free.bind fun inner => ?_
    exact (Proceeds.expect .endBracket _).discard.bind fun _ => Proceeds.pure id
  | false =>
    refine (proceeds_arguments h).bind fun elements => ?_
    match elements with
    | [] => exact Proceeds.pure id
    | [_] => exact Proceeds.pure id
    | _ :: _ :: _ => exact Proceeds.pure id

theorem proceeds_primary : Proceeds G (m + 1) (primary d nested) fun _ => True := by
  refine Proceeds.peek_bind fun t ht => ?_
  have htake {q : Parser Expr} (hkind : t.kind ≠ .endOfFile)
      (hq : Proceeds G m q fun _ => False) :
      ProceedsAt G t (m + 1) (discard Parser.advance >>= fun _ => q) fun _ => True :=
    Proceeds.discard_advance_bind_at (Nat.le_refl _) hkind hq
  cases hkind : t.kind
  case numericLiteral => exact htake (by rw [hkind]; decide) (Proceeds.pure id)
  case stringLiteral =>
    exact htake (by rw [hkind]; decide)
      ((proceeds_stringValue ht hkind).bind fun _ => Proceeds.pure id)
  case hexStringLiteral =>
    exact htake (by rw [hkind]; decide)
      ((proceeds_digitsOf ht (Or.inl hkind)).bind fun _ => Proceeds.pure id)
  case bitStringLiteral =>
    exact htake (by rw [hkind]; decide)
      ((proceeds_digitsOf ht (Or.inr hkind)).bind fun _ => Proceeds.pure id)
  case star => exact htake (by rw [hkind]; decide) (Proceeds.pure id)
  case keyword =>
    dsimp only
    cases keywordLiteral? t with
    | some value => exact htake (by rw [hkind]; decide) (Proceeds.pure id)
    | none => exact (Proceeds.unexpected _ _).at_of
  case startBracket => exact (proceeds_bracketed h).at_of
  case word =>
    refine ((Proceeds.peekAhead 1).bind fun next => ?_).at_of
    show Proceeds G (m + 1) (if _ then _ else _) _
    split
    · exact proceeds_call h
    · exact proceeds_column
  case quotedIdentifier => exact proceeds_column.at_of
  all_goals exact (Proceeds.unexpected _ _).at_of

theorem proceeds_prefixed (least : Nat) :
    Proceeds G (m + 1) (prefixed d nested least) fun _ => True := by
  refine Proceeds.peek_bind fun t _ => ?_
  cases hop : unaryOperator? t with
  | some op =>
    dsimp only
    split
    · exact (Proceeds.unexpected _ _).at_of
    · refine Proceeds.discard_advance_bind_at (Nat.le_refl _) (fun hend => ?_)
        ((h _).free.bind fun e => Proceeds.pure id)
      rw [unaryOperator?_of_ends (Or.inr hend)] at hop
      cases hop
  | none => exact (proceeds_primary h).at_of

theorem proceeds_operation? (least : Nat) : Proceeds G m (operation? nested least) (· ≠ none) := by
  refine Proceeds.peek_bind fun t _ => ?_
  cases hop : binaryOperator? t with
  | some op =>
    dsimp only
    split
    · exact (Proceeds.pure fun hne => hne rfl).at_of
    · refine Proceeds.discard_advance_bind_at (Nat.le_succ m) (fun hend => ?_)
        ((h _).free.bind fun e => Proceeds.pure id)
      rw [binaryOperator?_of_ends (Or.inr hend)] at hop
      cases hop
  | none => exact (Proceeds.pure fun hne => hne rfl).at_of

theorem proceeds_layer (least : Nat) : Proceeds G (m + 1) (layer d nested least) fun _ => True :=
  (proceeds_prefixed h least).bind_taken (Nat.le_refl _) fun _ =>
    (Proceeds.many (proceeds_operation? h least)).bind fun _ => Proceeds.pure id

end Nested

/-- **An operand gets on.** -/
theorem proceeds_operand (least : Nat) : Proceeds G m (operand d least) fun _ => True := by
  refine Proceeds.of_descend (fun c hc _ hnested least => ?_) least
  rw [operand_eq_layer]
  exact proceeds_layer hnested least c hc (Nat.lt_succ_self _)

/-! ## Statements -/

/-- **A statement gets on**: it takes a token, or rejects one. -/
theorem proceeds_statement : Proceeds G m (statement d) fun _ => True := by
  refine (Proceeds.checkKeyword _).bind fun isQuery => ?_
  cases isQuery with
  | true =>
    exact ((proceeds_query (m := m) proceeds_operand).mono (Nat.le_succ m)).bind_taken
      (Nat.le_succ m) fun q => Proceeds.pure id
  | false => exact proceeds_namedExpression proceeds_operand

theorem proceeds_semicolon? : Proceeds G m semicolon? (· ≠ none) :=
  (Proceeds.consume TokenKind.noConfusion).bind_bool (Proceeds.pure id)
    (Proceeds.pure fun hne => hne rfl)

theorem proceeds_endedStatement : Proceeds G m (endedStatement d) fun _ => True := by
  refine proceeds_statement.bind_taken (Nat.le_succ m) fun e => Proceeds.peek_bind fun t _ => ?_
  show ProceedsAt G t m (if _ then _ else _) _
  split
  · exact (Proceeds.pure id).at_of
  · exact (Proceeds.unexpected _ _).at_of

theorem proceeds_nextStatement? : Proceeds G m (nextStatement? d) (· ≠ none) := by
  rw [nextStatement?_eq]
  refine (Proceeds.many proceeds_semicolon?).discard.bind fun _ => ?_
  refine (Proceeds.check _).bind fun ended => ?_
  cases ended with
  | true => exact Proceeds.pure fun hne => hne rfl
  | false => exact proceeds_endedStatement.weaken fun _ _ => trivial

/-- **All statements get on**, one after another. -/
theorem proceeds_many_nextStatement? :
    Proceeds G m (Parser.many (nextStatement? d)) fun _ => False :=
  Proceeds.many proceeds_nextStatement?

/-- **A statement that is to be the only one gets on.** -/
theorem proceeds_onlyStatement : Proceeds G m (onlyStatement d) fun _ => True := by
  refine proceeds_statement.bind_taken (Nat.le_succ m) fun e => ?_
  refine (Proceeds.consume TokenKind.noConfusion).free.discard.bind fun _ => ?_
  exact (Proceeds.expect .endOfFile _).discard.bind fun _ => Proceeds.pure id

end Grammar
end SqlDialects
