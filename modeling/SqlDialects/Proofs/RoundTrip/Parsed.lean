import SqlDialects.Proofs.Lexing.Casing
import SqlDialects.Proofs.Precedence.Climbing
import SqlDialects.Proofs.Reading.Gives
import SqlDialects.Proofs.RoundTrip.Readable

/-!
# What is read is readable

Every expression that a built-in dialect gives for a text is of the forms that
`Readable` lists, with type names that the dialect resolves to themselves.  Each
parser of the grammar contributes the form that it makes; the knots of the grammar
are tied by induction on the tokens ahead.

The one form that needs more than its parts is an operation.  That its operands
need no brackets is not seen from the operands, but from where the parser stood
behind them: an operator that binds more tightly than what has been gathered would
have been taken before.
-/

namespace SqlDialects

variable {n : DialectName} {d : Dialect}

/-! ## Names of types -/

namespace DialectName

/-- The name of a type that a dialect resolves to itself. -/
structure Canonical (n : DialectName) (name : String) : Prop where
  isWord : Text.isWord name.toList = true
  toUpper : name.toUpper = name
  notAlias : n.draft.typeAliases.find? name = none

end DialectName

/-- What a word is resolved to is resolved to itself. -/
theorem DialectName.Makes.canonical_canonicalType (hd : n.Makes d) {w : String}
    (hw : Text.isWord w.toList = true) : n.Canonical (d.canonicalType w.toUpper) := by
  unfold Dialect.canonicalType
  rw [hd.typeAliases]
  cases hfind : n.draft.typeAliases.find? w.toUpper with
  | none =>
    refine ⟨?_, Text.toUpper_idem w, hfind⟩
    show Text.isWord w.toUpper.toList = true
    rw [Text.isWord_toUpper]
    exact hw
  | some name =>
    have hall : ∀ e ∈ n.draft.typeAliases, Text.isWord e.2.toList = true ∧ e.2.toUpper = e.2 ∧
        n.draft.typeAliases.find? e.2 = none := by
      cases n <;> decide +kernel
    obtain ⟨hword, hupper, halias⟩ := hall _ (Table.mem_of_find?_eq_some hfind)
    exact ⟨hword, hupper, halias⟩

namespace Grammar

/-! ## Types -/

section Types

variable {nested : Parser DataType}

theorem gives_stringValue (t : Token) : Gives n (stringValue d t) fun _ => True := by
  unfold stringValue
  split
  · exact Gives.throw _ _
  · exact Gives.pure trivial

theorem gives_typeParam (h : Gives n nested (·.Names n.Canonical)) :
    Gives n (typeParam d nested) (DataType.NamesOf n.Canonical) := by
  have htype : Gives n (do return .type (← nested)) (DataType.NamesOf n.Canonical) :=
    h.bind fun t ht => Gives.pure ht
  refine Gives.peek_bind fun t ht => ?_
  cases hkind : t.kind
  case numericLiteral => exact Gives.advance_bind_at (Gives.pure (ht.numeral hkind))
  case stringLiteral =>
    refine Gives.advance_bind_at ?_
    exact (gives_stringValue t).bind fun _ _ => Gives.pure trivial
  case word => exact htype.at_of t
  case keyword => exact htype.at_of t
  all_goals exact (Gives.unexpected _ _).at_of t

theorem gives_typeLayer (hd : n.Makes d) (h : Gives n nested (·.Names n.Canonical)) :
    Gives n (typeLayer d nested) (·.Names n.Canonical) := by
  have hrest : ∀ t : Token, Text.isWord t.text.toList = true → Gives n (do
      let params ← if ← Parser.consume .startBracket then
        Parser.csvToEndBracket (typeParam d nested) else pure []
      return DataType.mk (d.canonicalType t.key) params) (·.Names n.Canonical) := by
    intro t ht
    have hname := hd.canonical_canonicalType ht
    refine (Gives.consume .startBracket).bind fun found _ => ?_
    cases found with
    | true =>
      refine (Gives.csvToEndBracket (gives_typeParam h)).bind fun params hparams => Gives.pure ?_
      exact ⟨hname, DataType.namesIn_iff.2 hparams⟩
    | false => exact Gives.pure ⟨hname, trivial⟩
  refine Gives.peek_bind fun t ht => ?_
  cases hkind : t.kind
  case word => exact Gives.advance_bind_at (hrest t (ht.word hkind).1)
  case keyword => exact Gives.advance_bind_at (hrest t (ht.keyword hkind))
  all_goals exact (Gives.unexpected _ _).at_of t

/-- **The names in a type that is read are resolved.** -/
theorem gives_dataType (hd : n.Makes d) : Gives n (dataType d) (·.Names n.Canonical) := by
  refine Gives.of_descend (p := fun _ : Unit => dataType d) (P := fun _ t => t.Names n.Canonical)
    (fun c h hc _ t c' ht => ?_) ()
  rw [dataType] at ht
  exact gives_typeLayer hd (h ()) c t c' hc ht

end Types

/-! ## Names -/

theorem gives_identifier : Gives n identifier fun _ => True := by
  refine Gives.peek_bind fun t _ => ?_
  cases t.kind
  case word => exact (Gives.advance.bind fun _ _ => Gives.pure trivial).at_of t
  case quotedIdentifier => exact (Gives.advance.bind fun _ _ => Gives.pure trivial).at_of t
  all_goals exact (Gives.unexpected _ _).at_of t

theorem gives_column : Gives n column (Readable n n.Canonical .source) := by
  have hround : Gives n
      (do if ← Parser.consume .dot then return some (← identifier) else return none)
      fun o => ∀ id ∈ o, True := by
    refine (Gives.consume .dot).bind fun found _ => ?_
    cases found with
    | true => exact gives_identifier.bind fun _ _ => Gives.pure fun _ _ => trivial
    | false => exact Gives.pure nofun
  refine gives_identifier.bind fun first _ => (Gives.many hround).bind fun rest _ => Gives.pure ?_
  cases rest with
  | nil => exact .identifier first
  | cons id rest => exact .compound (Nat.le_add_left 2 _)

theorem gives_binding (implicit : Bool) : Gives n (binding implicit) fun _ => True := by
  refine (Gives.consumeKeyword "AS").bind fun found _ => ?_
  cases found with
  | true => exact gives_identifier.bind fun _ _ => Gives.pure trivial
  | false =>
    refine Gives.peek_bind fun t _ => Gives.at_of ?_ t
    show Gives n (if _ then _ else _) _
    split
    · exact gives_identifier.bind fun _ _ => Gives.pure trivial
    · exact Gives.pure trivial

/-- What is bound to a name was bound to none before. -/
theorem readable_bind {e : Expr} (he : Readable n n.Canonical .operand e)
    (name : Option Identifier) : Readable n n.Canonical .element (bind e name) := by
  cases name with
  | none => exact .element he
  | some name =>
    show Readable n n.Canonical .element (.aliased e.unalias name)
    rw [Expr.unalias_of_kind_ne (he.kind_ne_aliased (Or.inr rfl))]
    exact .named he name

theorem readable_bind_source {e : Expr} (he : Readable n n.Canonical .source e)
    (name : Option Identifier) : Readable n n.Canonical .table (bind e name) := by
  cases name with
  | none => exact .table he
  | some name =>
    show Readable n n.Canonical .table (.aliased e.unalias name)
    rw [Expr.unalias_of_kind_ne (he.kind_ne_aliased (Or.inl rfl))]
    exact .namedTable he name

/-! ## Calls -/

section Calls

variable {nested : Nat → Parser Expr}

theorem gives_namedExpression (h : Gives n (nested 0) (Readable n n.Canonical .operand)) :
    Gives n (namedExpression nested) (Readable n n.Canonical .element) :=
  h.bind fun _ he => (gives_binding false).bind fun name _ => Gives.pure (readable_bind he name)

theorem exists_of_map_eq_ok {ε α β : Type} {f : α → β} {x : Except ε α} {b : β}
    (h : x.map f = .ok b) : ∃ a, x = .ok a ∧ f a = b := by
  cases x with
  | error err => cases h
  | ok a =>
    cases h
    exact ⟨a, rfl, rfl⟩

/-- The only argument of a call that has one. -/
theorem eq_of_exactlyOne {args : List Expr} {e : Expr} (h : exactlyOne args = .ok e) :
    args = [e] := by
  match args with
  | [] => cases h
  | [a] =>
    cases h
    rfl
  | _ :: _ :: _ => cases h

theorem eq_of_exactlyTwo {args : List Expr} {p : Expr × Expr} (h : exactlyTwo args = .ok p) :
    args = [p.1, p.2] := by
  match args with
  | [] => cases h
  | [_] => cases h
  | [a, b] =>
    cases h
    rfl
  | _ :: _ :: _ :: _ => cases h

/-- Taking every other element loses none. -/
theorem mem_of_mem_alternate {α : Type} {as : List α} {a : α}
    (h : a ∈ (alternate as).1 ∨ a ∈ (alternate as).2) : a ∈ as := by
  induction as with
  | nil => rcases h with h | h <;> cases h
  | cons b bs ih =>
    simp only [alternate] at h
    rcases h with h | h
    · rcases List.mem_cons.1 h with rfl | h
      · exact List.mem_cons_self
      · exact List.mem_cons_of_mem b (ih (Or.inr h))
    · exact List.mem_cons_of_mem b (ih (Or.inl h))

/-- An operand that was read as one, and that is no operation. -/
structure IsPrimary (n : DialectName) (e : Expr) : Prop where
  readable : Readable n n.Canonical .operand e
  strength : e.strength = 9

/-- What is built from readable arguments is readable. -/
theorem isPrimary_of_build {b : CallBuilder} (hb : b = .varMap → n = .clickhouse)
    {args : List Expr} (hargs : ∀ e ∈ args, Readable n n.Canonical .operand e) {e : Expr}
    (h : b.build args = .ok e) : IsPrimary n e := by
  cases b with
  | approxDistinct =>
    obtain ⟨a, ha, rfl⟩ := exists_of_map_eq_ok h
    obtain rfl := eq_of_exactlyOne ha
    exact ⟨.approxDistinct (hargs a List.mem_cons_self), rfl⟩
  | anyValue =>
    obtain ⟨a, ha, rfl⟩ := exists_of_map_eq_ok h
    obtain rfl := eq_of_exactlyOne ha
    exact ⟨.anyValue (hargs a List.mem_cons_self), rfl⟩
  | regexpLike =>
    obtain ⟨p, hp, rfl⟩ := exists_of_map_eq_ok h
    obtain rfl := eq_of_exactlyTwo hp
    exact ⟨.regexpLike (hargs _ List.mem_cons_self)
      (hargs _ (List.mem_cons_of_mem _ List.mem_cons_self)), rfl⟩
  | varMap =>
    change (if args.length % 2 ≠ 0 then _ else _) = _ at h
    split at h
    · cases h
    · rename_i heven
      cases h
      have hlength := length_alternate args
      refine ⟨.varMap (hb rfl) (by omega) (fun e he => hargs e ?_) fun e he => hargs e ?_, rfl⟩
      · exact mem_of_mem_alternate (Or.inl he)
      · exact mem_of_mem_alternate (Or.inr he)

variable (hd : n.Makes d) (h : Gives n (nested 0) (Readable n n.Canonical .operand))

include hd h

theorem gives_plainCall {name : Token} (hword : name.kind = .word) (hname : name.lexeme.Taken n)
    (hcallSyntax : n.draft.callSyntaxes.find? name.key = none) :
    Gives n (plainCall d nested name) (IsPrimary n) := by
  refine (Gives.csvToEndBracket h).bind fun args hargs => ?_
  rw [hd.callBuilders]
  cases hbuilder : n.draft.callBuilders.find? name.key with
  | some builder =>
    have hmap : builder = .varMap → n = .clickhouse := by
      have hall : ∀ e ∈ n.draft.callBuilders, e.2 = .varMap → n = .clickhouse := by
        cases n <;> decide
      exact hall _ (Table.mem_of_find?_eq_some hbuilder)
    exact Gives.built fun e he => isPrimary_of_build hmap hargs he
  | none =>
    obtain ⟨hisWord, hreserved⟩ := hname.word hword
    exact Gives.pure ⟨.call ⟨hisWord, hreserved, Or.inl ⟨hcallSyntax, hbuilder⟩⟩ hargs, rfl⟩

theorem gives_castCall : Gives n (castCall d nested) (IsPrimary n) := by
  refine h.bind fun this hthis => ?_
  refine (Gives.expectKeyword "AS").discard_bind ?_
  refine (gives_dataType hd).bind fun target htarget => ?_
  exact (Gives.expect _ _).discard_bind (Gives.pure ⟨.cast hthis htarget, rfl⟩)

omit hd in
theorem gives_quantileCall (hn : n = .clickhouse) {name : Token} (hword : name.kind = .word)
    (hname : name.lexeme.Taken n)
    (hcallSyntax : n.draft.callSyntaxes.find? name.key = some .quantile) :
    Gives n (quantileCall nested name) (IsPrimary n) := by
  have hone : ∀ {args : List Expr}, (∀ e ∈ args, Readable n n.Canonical .operand e) →
      Gives n (Parser.built name (exactlyOne args)) (Readable n n.Canonical .operand) := by
    intro args hargs
    refine Gives.built fun e he => hargs e ?_
    rw [eq_of_exactlyOne he]
    exact List.mem_cons_self
  refine (Gives.csvToEndBracket h).bind fun params hparams => ?_
  refine (Gives.consume .startBracket).bind fun found _ => ?_
  cases found with
  | true =>
    refine (hone hparams).bind fun level hlevel => ?_
    refine (Gives.csvToEndBracket h).bind fun args hargs => ?_
    exact (hone hargs).bind fun this hthis => Gives.pure ⟨.quantile hn hthis hlevel, rfl⟩
  | false =>
    cases params with
    | nil =>
      obtain ⟨hisWord, hreserved⟩ := hname.word hword
      exact Gives.pure ⟨.call ⟨hisWord, hreserved, Or.inr ⟨hcallSyntax, rfl⟩⟩ nofun, rfl⟩
    | cons e params =>
      refine (hone hparams).bind fun this hthis => Gives.pure ⟨.quantile hn hthis ?_, rfl⟩
      exact .literal (by decide +kernel : Lexical.isNumeral "0.5".toList = true)

omit hd h in
/-- The syntaxes that a dialect has for calls. -/
theorem callSyntax_of_find? {key : String} {callSyntax : CallSyntax}
    (hfind : n.draft.callSyntaxes.find? key = some callSyntax) :
    callSyntax = .cast ∨ callSyntax = .struct ∧ n ≠ .ansi ∨
      callSyntax = .quantile ∧ n = .clickhouse := by
  have hall : ∀ e ∈ n.draft.callSyntaxes, e.2 = .cast ∨ e.2 = .struct ∧ n ≠ .ansi ∨
      e.2 = .quantile ∧ n = .clickhouse := by
    cases n <;> decide
  exact hall _ (Table.mem_of_find?_eq_some hfind)

theorem gives_call : Gives n (call d nested) (IsPrimary n) := by
  refine (Gives.expect .word _).bind fun name hname => ?_
  refine (Gives.expect _ _).discard_bind ?_
  rw [hd.callSyntaxes]
  cases hcallSyntax : n.draft.callSyntaxes.find? name.key with
  | none => exact gives_plainCall hd h hname.1 hname.2 hcallSyntax
  | some callSyntax =>
    refine (Gives.note _).bind fun _ _ => ?_
    rcases callSyntax_of_find? hcallSyntax with rfl | ⟨rfl, hn⟩ | ⟨rfl, hn⟩
    · exact gives_castCall hd h
    · refine (Gives.csvToEndBracket (gives_namedExpression h)).bind fun elements helements => ?_
      exact Gives.pure ⟨.struct _ hn helements, rfl⟩
    · exact gives_quantileCall h hn hname.1 hname.2 hcallSyntax

end Calls

end Grammar

end SqlDialects
