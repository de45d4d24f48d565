import SqlDialects.Grammar.Expression
import SqlDialects.Proofs.Parser.InStep
import SqlDialects.Proofs.Precedence.Climbing

/-!
# The grammar does not look past the end of a statement

One lemma for each parser of the grammar: run on two inputs whose tokens are alike
it goes in step, whatever the pairing is.  So no parser tells a semicolon from the
end, none depends on where a token stands or how a keyword is written, and none
sees what comes behind the end of a statement.  Only `nextStatement?` and what is
made from it look at semicolons, and they are not here.

The parsers take their nested ones as parameters, and these differ in the two
runs: a nested parser remembers the cursor that it was made at.  The knots are
tied by `Pairing.InStep.of_descend`.
-/

namespace SqlDialects
namespace Grammar

open Pairing (InStep)

variable {P : Pairing} {d : Dialect} {t t' : Token}

/-! ## What a token is to the grammar -/

theorem keywordLiteral?_eq_of_matches (hm : t.Matches t') :
    keywordLiteral? t' = keywordLiteral? t := by
  unfold keywordLiteral?
  rw [hm.isKeyword, hm.isKeyword, hm.isKeyword]

theorem unaryOperator?_eq_of_matches (hm : t.Matches t') :
    unaryOperator? t' = unaryOperator? t := by
  unfold unaryOperator?
  rw [hm.kind, hm.isKeyword]

theorem unaryOperator?_of_ends (hk : t.kind = .semicolon ∨ t.kind = .endOfFile) :
    unaryOperator? t = none := by
  unfold unaryOperator?
  rcases hk with hk | hk <;> rw [hk]

theorem binaryOperator?_eq_of_matches (hm : t.Matches t') :
    binaryOperator? t' = binaryOperator? t := by
  unfold binaryOperator?
  rw [hm.kind, hm.isKeyword, hm.isKeyword]

theorem binaryOperator?_of_ends (hk : t.kind = .semicolon ∨ t.kind = .endOfFile) :
    binaryOperator? t = none := by
  unfold binaryOperator?
  rcases hk with hk | hk <;> rw [hk]

/-! ## Names -/

theorem inStep_stringValue (h : t'.text = t.text) :
    P.InStep Eq (stringValue d t) (stringValue d t') := by
  unfold stringValue
  rw [h]
  split
  · exact InStep.fault _ _
  · exact InStep.pure rfl

theorem inStep_digitsOf (h : t'.text = t.text) : P.InStep Eq (digitsOf t) (digitsOf t') := by
  unfold digitsOf
  rw [h]
  split
  · exact InStep.fault _ _
  · exact InStep.pure rfl

theorem inStep_identifier : P.InStep Eq identifier identifier := by
  refine InStep.peek_bind (fun t t' _ hm => ?_) ?_
  · rw [hm.kind]
    cases hkind : t.kind
    case word =>
      refine InStep.advance_bind_at (by rw [hkind]; rfl) ?_
      rw [hm.text (by rw [hkind]; decide)]
      exact InStep.pure rfl
    case quotedIdentifier =>
      refine InStep.advance_bind_at (by rw [hkind]; rfl) ?_
      rw [hm.text (by rw [hkind]; decide)]
      exact InStep.pure rfl
    all_goals exact (InStep.unexpected _ _).at_of
  · rintro t t' (hk | hk) (hk' | hk') <;>
    · rw [hk, hk']
      exact InStep.unexpected _ _

theorem inStep_column : P.InStep Eq column column := by
  refine inStep_identifier.bind_eq fun first => (InStep.many ?_).bind_eq fun rest => InStep.pure rfl
  refine (InStep.consume rfl).bind_eq fun found => ?_
  cases found with
  | true => exact inStep_identifier.bind_eq fun id => InStep.pure rfl
  | false => exact InStep.pure rfl

theorem inStep_binding (implicit : Bool) : P.InStep Eq (binding implicit) (binding implicit) := by
  have hname : P.InStep Eq (do return some (← identifier)) (do return some (← identifier)) :=
    inStep_identifier.bind_eq fun id => InStep.pure rfl
  refine (InStep.consumeKeyword "AS").bind_eq fun found => ?_
  cases found with
  | true => exact hname
  | false =>
    refine InStep.peek_bind (fun t t' _ hm => InStep.at_of ?_) ?_
    · show P.InStep Eq (if _ then _ else _) (if _ then _ else _)
      rw [hm.kind]
      split
      · exact hname
      · exact InStep.pure rfl
    · rintro t t' (hk | hk) (hk' | hk') <;>
      · rw [hk, hk']
        cases implicit <;> exact InStep.pure rfl

/-! ## Types -/

section Types

variable {nested nested' : Parser DataType} (h : P.InStep Eq nested nested')

include h

theorem inStep_typeParam : P.InStep Eq (typeParam d nested) (typeParam d nested') := by
  have htype : P.InStep Eq (do return TypeParam.type (← nested))
      (do return TypeParam.type (← nested')) := h.bind_eq fun t => InStep.pure rfl
  refine InStep.peek_bind (fun t t' _ hm => ?_) ?_
  · rw [hm.kind]
    cases hkind : t.kind
    case numericLiteral =>
      refine InStep.advance_bind_at (by rw [hkind]; rfl) ?_
      rw [hm.text (by rw [hkind]; decide)]
      exact InStep.pure rfl
    case stringLiteral =>
      refine InStep.advance_bind_at (by rw [hkind]; rfl) ?_
      exact (inStep_stringValue (hm.text (by rw [hkind]; decide))).bind_eq fun s => InStep.pure rfl
    case word => exact htype.at_of
    case keyword => exact htype.at_of
    all_goals exact (InStep.unexpected _ _).at_of
  · rintro t t' (hk | hk) (hk' | hk') <;>
    · rw [hk, hk']
      exact InStep.unexpected _ _

theorem inStep_typeLayer : P.InStep Eq (typeLayer d nested) (typeLayer d nested') := by
  have hrest : ∀ name : String, P.InStep Eq (do
      let params ← if ← Parser.consume .startBracket then
        Parser.csvToEndBracket (typeParam d nested) else pure []
      return DataType.mk (d.canonicalType name) params) (do
      let params ← if ← Parser.consume .startBracket then
        Parser.csvToEndBracket (typeParam d nested') else pure []
      return DataType.mk (d.canonicalType name) params) := by
    intro name
    refine (InStep.consume rfl).bind_eq fun found => ?_
    cases found with
    | true =>
      exact (InStep.csvToEndBracket (inStep_typeParam h)).bind_eq fun params => InStep.pure rfl
    | false => exact InStep.pure rfl
  refine InStep.peek_bind (fun t t' _ hm => ?_) ?_
  · rw [hm.kind]
    cases hkind : t.kind
    case word =>
      refine InStep.advance_bind_at (by rw [hkind]; rfl) ?_
      rw [hm.key]
      exact hrest t.key
    case keyword =>
      refine InStep.advance_bind_at (by rw [hkind]; rfl) ?_
      rw [hm.key]
      exact hrest t.key
    all_goals exact (InStep.unexpected _ _).at_of
  · rintro t t' (hk | hk) (hk' | hk') <;>
    · rw [hk, hk']
      exact InStep.unexpected _ _

end Types

theorem inStep_dataType : P.InStep Eq (dataType d) (dataType d) := by
  have hlayer : ∀ c, dataType d c =
      typeLayer d (Parser.descend c fun inner _ => dataType d inner) c := fun c => by rw [dataType]
  exact InStep.of_descend (l := fun nested _ => typeLayer d (nested ()))
    (m := fun nested _ => typeLayer d (nested ())) (fun _ => hlayer) (fun _ => hlayer)
    (fun _ _ h _ => inStep_typeLayer (h ())) ()

/-! ## Calls -/

section Nested

variable {nested nested' : Nat → Parser Expr} (h : ∀ k, P.InStep Eq (nested k) (nested' k))

include h

theorem inStep_namedExpression : P.InStep Eq (namedExpression nested) (namedExpression nested') :=
  (h 0).bind_eq fun _ => (inStep_binding false).bind_eq fun _ => InStep.pure rfl

theorem inStep_plainCall (ht : P.tokens t t') (hm : t.Matches t') (hkind : t.kind = .word) :
    P.InStep Eq (plainCall d nested t) (plainCall d nested' t') := by
  refine (InStep.csvToEndBracket (h 0)).bind_eq fun args => ?_
  rw [hm.key, hm.text (by rw [hkind]; decide)]
  cases d.callBuilders.find? t.key with
  | some builder => exact InStep.built ht _
  | none => exact InStep.pure rfl

theorem inStep_castCall : P.InStep Eq (castCall d nested) (castCall d nested') := by
  refine (h 0).bind_eq fun this => (InStep.expectKeyword "AS").discard_bind ?_
  refine inStep_dataType.bind_eq fun target => ?_
  exact (InStep.expect rfl _).discard_bind (InStep.pure rfl)

theorem inStep_quantileCall (ht : P.tokens t t') (hm : t.Matches t') (hkind : t.kind = .word) :
    P.InStep Eq (quantileCall nested t) (quantileCall nested' t') := by
  refine (InStep.csvToEndBracket (h 0)).bind_eq fun params => ?_
  refine (InStep.consume rfl).bind_eq fun parameterized => ?_
  cases parameterized with
  | true =>
    refine (InStep.built ht _).bind_eq fun level => ?_
    refine (InStep.csvToEndBracket (h 0)).bind_eq fun args => ?_
    exact (InStep.built ht _).bind_eq fun this => InStep.pure rfl
  | false =>
    show P.InStep Eq (if params.isEmpty then _ else _) (if params.isEmpty then _ else _)
    rw [hm.text (by rw [hkind]; decide)]
    split
    · exact InStep.pure rfl
    · exact (InStep.built ht _).bind_eq fun this => InStep.pure rfl

theorem inStep_callRest (ht : P.tokens t t') (hm : t.Matches t') (hkind : t.kind = .word)
    (callSyntax : CallSyntax) :
    P.InStep Eq (callRest d nested t callSyntax) (callRest d nested' t' callSyntax) := by
  cases callSyntax with
  | plain => exact inStep_plainCall h ht hm hkind
  | struct =>
    refine (InStep.csvToEndBracket (inStep_namedExpression h)).bind_eq fun elements => ?_
    rw [hm.text (by rw [hkind]; decide)]
    exact InStep.pure rfl
  | cast => exact inStep_castCall h
  | tuple => exact (InStep.csvToEndBracket (h 0)).bind_eq fun elements => InStep.pure rfl
  | quantile => exact inStep_quantileCall h ht hm hkind

theorem inStep_call : P.InStep Eq (call d nested) (call d nested') := by
  refine (InStep.expect rfl _).bind fun t t' ht => ?_
  obtain ⟨ht, hkind⟩ := ht
  have hm := (P.alike ht).matches_of (by rw [hkind]; rfl)
  refine (InStep.expect rfl _).discard_bind ?_
  rw [hm.key, hm.text (by rw [hkind]; decide)]
  cases d.callSyntaxes.find? t.key with
  | some callSyntax => exact InStep.note_bind _ _ (inStep_callRest h ht hm hkind callSyntax)
  | none => exact inStep_plainCall h ht hm hkind

/-! ## Queries -/

theorem inStep_projection : P.InStep Eq (projection nested) (projection nested') :=
  (h 0).bind_eq fun _ => (inStep_binding true).bind_eq fun _ => InStep.pure rfl

theorem inStep_sortKey : P.InStep Eq (sortKey nested) (sortKey nested') := by
  refine (h 0).bind_eq fun this => (InStep.consumeKeyword "ASC").bind_eq fun asc => ?_
  cases asc with
  | true => exact InStep.pure rfl
  | false =>
    refine (InStep.consumeKeyword "DESC").bind_eq fun desc => ?_
    cases desc <;> exact InStep.pure rfl

omit h in
theorem inStep_tableModifier? : P.InStep Eq (tableModifier? d) (tableModifier? d) := by
  refine InStep.peek_bind (fun t t' _ hm => ?_) ?_
  · rw [hm.kind, hm.key]
    split
    · rename_i hkeyword
      cases d.tableModifiers.find? t.key with
      | some m =>
        refine InStep.discard_advance_bind_at ?_ (InStep.pure rfl)
        rw [beq_iff_eq.1 hkeyword]
        rfl
      | none => exact (InStep.pure rfl).at_of
    · exact (InStep.pure rfl).at_of
  · rintro t t' (hk | hk) (hk' | hk') <;>
    · rw [hk, hk']
      exact InStep.pure rfl

omit h in
theorem inStep_table {inner inner' : Parser (Query Expr)} (hinner : P.InStep Eq inner inner') :
    P.InStep Eq (table d inner) (table d inner') := by
  have hrest : ∀ this, P.InStep Eq (do
      let name ← binding true
      let modifiers ← Parser.many (tableModifier? d)
      return modifiers.foldl (fun e m => m.apply e) (bind this name)) (do
      let name ← binding true
      let modifiers ← Parser.many (tableModifier? d)
      return modifiers.foldl (fun e m => m.apply e) (bind this name)) := fun this =>
    (inStep_binding true).bind_eq fun name =>
      (InStep.many inStep_tableModifier?).bind_eq fun modifiers => InStep.pure rfl
  have hcolumn := inStep_column.bind_eq hrest
  refine InStep.check_peekAhead_bind rfl (fun t t' next next' hkind hnext => ?_)
    fun next next' => hcolumn
  show P.InStepAt t t' Eq (if next.isKeyword "SELECT" then _ else _)
    (if next'.isKeyword "SELECT" then _ else _)
  rw [(P.alike hnext).isKeyword]
  split
  · refine InStep.discard_advance_bind_at (by rw [hkind]; rfl) ?_
    refine hinner.bind_eq fun q => ?_
    exact (InStep.expect rfl _).discard_bind (hrest _)
  · exact hcolumn.at_of

omit h in
theorem inStep_clause {α : Type} (word : String) {rest rest' : Parser α}
    (hrest : P.InStep Eq rest rest') : P.InStep Eq (clause word rest) (clause word rest') := by
  refine (InStep.consumeKeyword word).bind_eq fun found => ?_
  cases found with
  | true => exact hrest.bind_eq fun a => InStep.pure rfl
  | false => exact InStep.pure rfl

omit h in
theorem inStep_clauseBy {α : Type} (word : String) {item item' : Parser α}
    (hitem : P.InStep Eq item item') : P.InStep Eq (clauseBy word item) (clauseBy word item') := by
  refine (InStep.consumeKeyword word).bind_eq fun found => ?_
  cases found with
  | true => exact (InStep.expectKeyword "BY").discard_bind (InStep.csv hitem)
  | false => exact InStep.pure rfl

theorem inStep_queryLayer {inner inner' : Parser (Query Expr)} (hinner : P.InStep Eq inner inner') :
    P.InStep Eq (queryLayer d nested inner) (queryLayer d nested' inner') := by
  refine (InStep.expectKeyword "SELECT").discard_bind ?_
  refine (InStep.consumeKeyword "DISTINCT").bind_eq fun distinct => ?_
  refine (InStep.csv (inStep_projection h)).bind_eq fun projections => ?_
  refine (inStep_clause "FROM" (inStep_table hinner)).bind_eq fun source => ?_
  refine (inStep_clause "WHERE" (h 0)).bind_eq fun filter => ?_
  refine (inStep_clauseBy "GROUP" (h 0)).bind_eq fun groupBy => ?_
  refine (inStep_clause "HAVING" (h 0)).bind_eq fun having => ?_
  refine (inStep_clauseBy "ORDER" (inStep_sortKey h)).bind_eq fun orderBy => ?_
  exact (inStep_clause "LIMIT" (h 0)).bind_eq fun limit => InStep.pure rfl

/-- **A query sees as much in both runs**, if its operands do. -/
theorem inStep_query : P.InStep Eq (query d nested) (query d nested') := by
  have hlayer : ∀ nested c, query d nested c =
      queryLayer d nested (Parser.descend c fun inner _ => query d nested inner) c :=
    fun nested c => by rw [query]
  exact InStep.of_descend (l := fun inner _ => queryLayer d nested (inner ()))
    (m := fun inner _ => queryLayer d nested' (inner ())) (fun _ => hlayer nested)
    (fun _ => hlayer nested') (fun _ _ hinner _ => inStep_queryLayer h (hinner ())) ()

/-! ## Operands and operations -/

theorem inStep_bracketed : P.InStep Eq (bracketed d nested) (bracketed d nested') := by
  refine (InStep.expect rfl _).discard_bind (InStep.checkKeyword_bind fun isQuery => ?_)
  cases isQuery with
  | true =>
    refine (inStep_query h).bind_eq fun inner => ?_
    exact (InStep.expect rfl _).discard_bind (InStep.pure rfl)
  | false =>
    refine (InStep.csvToEndBracket (h 0)).bind_eq fun elements => ?_
    match elements with
    | [] => exact InStep.pure rfl
    | [_] => exact InStep.pure rfl
    | _ :: _ :: _ => exact InStep.pure rfl

theorem inStep_primary : P.InStep Eq (primary d nested) (primary d nested') := by
  refine InStep.peek_bind (fun t t' _ hm => ?_) ?_
  · rw [hm.kind]
    cases hkind : t.kind
    case numericLiteral =>
      refine InStep.discard_advance_bind_at (by rw [hkind]; rfl) ?_
      rw [hm.text (by rw [hkind]; decide)]
      exact InStep.pure rfl
    case stringLiteral =>
      refine InStep.discard_advance_bind_at (by rw [hkind]; rfl) ?_
      exact (inStep_stringValue (hm.text (by rw [hkind]; decide))).bind_eq fun s => InStep.pure rfl
    case hexStringLiteral =>
      refine InStep.discard_advance_bind_at (by rw [hkind]; rfl) ?_
      exact (inStep_digitsOf (hm.text (by rw [hkind]; decide))).bind_eq fun s => InStep.pure rfl
    case bitStringLiteral =>
      refine InStep.discard_advance_bind_at (by rw [hkind]; rfl) ?_
      exact (inStep_digitsOf (hm.text (by rw [hkind]; decide))).bind_eq fun s => InStep.pure rfl
    case star => exact InStep.discard_advance_bind_at (by rw [hkind]; rfl) (InStep.pure rfl)
    case keyword =>
      dsimp only
      rw [keywordLiteral?_eq_of_matches hm]
      cases keywordLiteral? t with
      | some value => exact InStep.discard_advance_bind_at (by rw [hkind]; rfl) (InStep.pure rfl)
      | none => exact (InStep.unexpected _ _).at_of
    case startBracket => exact (inStep_bracketed h).at_of
    case word =>
      refine InStep.peekAhead_bind_at (by rw [hkind]; rfl) fun next next' hnext => ?_
      show P.InStep Eq (if _ then _ else _) (if _ then _ else _)
      rw [(P.alike hnext).beq_kind rfl]
      split
      · exact inStep_call h
      · exact inStep_column
    case quotedIdentifier => exact inStep_column.at_of
    all_goals exact (InStep.unexpected _ _).at_of
  · rintro t t' (hk | hk) (hk' | hk') <;>
    · rw [hk, hk']
      exact InStep.unexpected _ _

theorem inStep_prefixed (least : Nat) :
    P.InStep Eq (prefixed d nested least) (prefixed d nested' least) := by
  refine InStep.peek_bind (fun t t' _ hm => ?_) ?_
  · rw [unaryOperator?_eq_of_matches hm]
    cases hop : unaryOperator? t with
    | some op =>
      dsimp only
      split
      · exact (InStep.unexpected _ _).at_of
      · refine InStep.discard_advance_bind_at (Bool.eq_false_iff.2 fun ht => ?_)
          ((h _).bind_eq fun e => InStep.pure rfl)
        rw [unaryOperator?_of_ends (TokenKind.endsStatement_iff.1 ht)] at hop
        cases hop
    | none => exact (inStep_primary h).at_of
  · intro t t' hk hk'
    rw [unaryOperator?_of_ends hk, unaryOperator?_of_ends hk']
    exact inStep_primary h

theorem inStep_operation? (least : Nat) :
    P.InStep Eq (operation? nested least) (operation? nested' least) := by
  refine InStep.peek_bind (fun t t' _ hm => ?_) ?_
  · rw [binaryOperator?_eq_of_matches hm]
    cases hop : binaryOperator? t with
    | some op =>
      dsimp only
      split
      · exact (InStep.pure rfl).at_of
      · refine InStep.discard_advance_bind_at (Bool.eq_false_iff.2 fun ht => ?_)
          ((h _).bind_eq fun e => InStep.pure rfl)
        rw [binaryOperator?_of_ends (TokenKind.endsStatement_iff.1 ht)] at hop
        cases hop
    | none => exact (InStep.pure rfl).at_of
  · intro t t' hk hk'
    rw [binaryOperator?_of_ends hk, binaryOperator?_of_ends hk']
    exact InStep.pure rfl

theorem inStep_layer (least : Nat) : P.InStep Eq (layer d nested least) (layer d nested' least) :=
  (inStep_prefixed h least).bind_eq fun _ =>
    (InStep.many (inStep_operation? h least)).bind_eq fun _ => InStep.pure rfl

end Nested

/-- **An operand sees as much in both runs.** -/
theorem inStep_operand (least : Nat) : P.InStep Eq (operand d least) (operand d least) :=
  InStep.of_descend (operand_eq_layer d) (operand_eq_layer d)
    (fun _ _ h least => inStep_layer h least) least

/-- **A statement sees as much in both runs**: whatever pairing they are of, they come to the same
tree, or to the same rejection. -/
theorem inStep_statement : P.InStep Eq (statement d) (statement d) := by
  refine InStep.checkKeyword_bind fun isQuery => ?_
  cases isQuery with
  | true => exact (inStep_query inStep_operand).bind_eq fun q => InStep.pure rfl
  | false => exact inStep_namedExpression inStep_operand

end Grammar
end SqlDialects
