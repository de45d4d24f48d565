import SqlDialects.Proofs.RoundTrip.Leaf

/-!
# Types come back

A type is written in the spelling of the dialect and read back with the canonical
names that the dialect has for that spelling, at every depth.  All that is asked
is that the spelling of each name is a word: whether it is reserved makes no
difference to types, since they may be named by keywords.
-/

namespace SqlDialects

variable {n : DialectName} {d : Dialect}

/-- The dialect spells the name of a type as a word. -/
def DialectName.SpellsType (n : DialectName) (name : String) : Prop :=
  Text.isWord ((n.draft.typeNames.find? name).getD name).toList = true

/-- A word is spelled as a word. -/
theorem DialectName.spellsType_of_isWord (n : DialectName) {name : String}
    (h : Text.isWord name.toList = true) : n.SpellsType name := by
  unfold SpellsType
  cases hfind : n.draft.typeNames.find? name with
  | none => exact h
  | some spelling =>
    have hall : ∀ e ∈ n.draft.typeNames, Text.isWord e.2.toList = true := by
      cases n <;> decide +kernel
    exact hall _ (Table.mem_of_find?_eq_some hfind)

theorem DialectName.Makes.typeName (hd : n.Makes d) (name : String) :
    d.typeName name = (n.draft.typeNames.find? name).getD name := by
  unfold Dialect.typeName
  rw [hd.typeNames]

theorem DialectName.Makes.canonicalType (hd : n.Makes d) (name : String) :
    d.canonicalType name = (n.draft.typeAliases.find? name).getD name := by
  unfold Dialect.canonicalType
  rw [hd.typeAliases]

namespace Grammar

/-- What may follow a type. -/
def EndsType (next : Lexeme) : Prop := next.kind ≠ .startBracket

/-- Below `k`, `nested` parses types. -/
def NestedType (d : Dialect) (nested : Parser DataType) (k : Nat) : Prop :=
  ∀ c, c.remaining < k → nested c = dataType d c

/-- A type is written so that it is read back in its canonical form. -/
structure WrittenType (n : DialectName) (d : Dialect) (t : DataType) (ls : List Lexeme) :
    Prop where
  spells : n.lexer.Spells (d.writeType t) ls
  first : ∃ l ms, ls = l :: ms ∧ (l.kind = .word ∨ l.kind = .keyword)
  reads : ∀ k, Reads k (dataType d) ls (d.canonType t) EndsType

/-- A parameter of a type is written so that it is read back in its canonical form. -/
structure WrittenParam (n : DialectName) (d : Dialect) (p : TypeParam DataType)
    (ls : List Lexeme) : Prop where
  spells : n.lexer.Spells (d.writeTypeParam p) ls
  first : ∃ l ms, ls = l :: ms ∧ l.kind ≠ .endBracket
  reads : ∀ nested k, NestedType d nested k →
    Reads k (typeParam d nested) ls (DataType.renameParam d.canonTypeName p) EndsType

theorem writeTypeParams_eq_map (d : Dialect) (ps : List (TypeParam DataType)) :
    d.writeTypeParams ps = ps.map d.writeTypeParam := by
  induction ps with
  | nil => rfl
  | cons p ps ih => rw [Dialect.writeTypeParams, ih, List.map_cons]

section Layer

variable {nested : Parser DataType} {k : Nat} {w : String} {kind : TokenKind}

/-- A type without parameters is a word. -/
theorem reads_typeLayer_name (hkind : kind = .word ∨ kind = .keyword) :
    Reads (k + 1) (typeLayer d nested) [⟨kind, w⟩] (.mk (d.canonicalType w.toUpper) [])
      EndsType := by
  unfold typeLayer
  refine Reads.peek_bind fun t next _ ht => ?_
  have ht : t.kind = kind := congrArg Lexeme.kind ht
  rw [ht]
  rcases hkind with rfl | rfl
  all_goals
    refine Reads.advance_bind (m := k) (fun h => by cases h) (fun t ht => ?_) (Nat.le_refl _)
    have htext : t.text = w := congrArg Lexeme.text ht
    rw [← htext]
    exact Reads.consume_bind_false (fun next hnext => hnext) (Reads.pure k _ EndsType)

/-- A type with parameters is a word and what stands in brackets behind it. -/
theorem reads_typeLayer_params {ls : List Lexeme} {params : List (TypeParam DataType)}
    (hkind : kind = .word ∨ kind = .keyword)
    (hparams : Reads k (Parser.csvToEndBracket (typeParam d nested)) ls params AnyNext) :
    Reads (k + 1) (typeLayer d nested) (⟨kind, w⟩ :: .startBracket :: ls)
      (.mk (d.canonicalType w.toUpper) params) AnyNext := by
  unfold typeLayer
  refine Reads.peek_bind fun t next _ ht => ?_
  have ht : t.kind = kind := congrArg Lexeme.kind ht
  rw [ht]
  rcases hkind with rfl | rfl
  all_goals
    refine Reads.advance_bind (m := k) (fun h => by cases h) (fun t ht => ?_) (Nat.le_refl _)
    have htext : t.text = w := congrArg Lexeme.text ht
    rw [← htext]
    exact Reads.consume_bind_true (l := .startBracket) (fun h => by cases h)
      (hparams.map_pure fun params => DataType.mk (d.canonicalType t.key) params) (Nat.le_succ k)

end Layer

/-- Parsing a type is one layer of it, over the parser for the types inside. -/
theorem reads_dataType {ls : List Lexeme} {t : DataType} {F : Lexeme → Prop} (k : Nat)
    (h : ∀ nested k, NestedType d nested k → Reads (k + 1) (typeLayer d nested) ls t F) :
    Reads k (dataType d) ls t F := by
  intro c next rest _ hc hnext
  have hnested : NestedType d (Parser.descend c fun inner _ => dataType d inner) c.remaining :=
    fun c' hlt => Parser.descend_of_lt hlt
  rw [dataType]
  exact h _ c.remaining hnested c next rest (Nat.lt_succ_self _) hc hnext

theorem kind_of_wordKind (n : DialectName) (w : String) :
    n.wordKind w = .word ∨ n.wordKind w = .keyword := by
  unfold DialectName.wordKind
  split
  · exact Or.inr rfl
  · exact Or.inl rfl

/-- A type whose parameters come back comes back. -/
theorem writtenType_of_params (hd : n.Makes d) {name : String} (hname : n.SpellsType name)
    {params : List (TypeParam DataType)} (hparams : ∀ p ∈ params, ∃ ls, WrittenParam n d p ls) :
    ∃ ls, WrittenType n d (.mk name params) ls := by
  have hword : Text.isWord (d.typeName name).toList = true := by
    rw [hd.typeName]
    exact hname
  have hkind := kind_of_wordKind n (d.typeName name)
  obtain ⟨items, rfl, hitems⟩ := exists_items hparams
  have hwrite : d.writeTypeParams (items.map (·.1)) = items.map fun i => d.writeTypeParam i.1 := by
    rw [writeTypeParams_eq_map, List.map_map]
    rfl
  have hcanon : d.canonType (.mk name (items.map (·.1))) =
      .mk (d.canonicalType (d.typeName name).toUpper)
        (items.map fun i => DataType.renameParam d.canonTypeName i.1) := by
    show DataType.mk _ _ = _
    rw [DataType.renameParams_eq_map, List.map_map]
    rfl
  cases items with
  | nil =>
    refine ⟨[⟨n.wordKind (d.typeName name), d.typeName name⟩], ?_, ⟨_, _, rfl, hkind⟩, ?_⟩
    · show n.lexer.Spells (d.typeName name) _
      exact DialectName.spells_word hword
    · intro k
      exact reads_dataType k fun nested k _ => reads_typeLayer_name hkind
  | cons i rest =>
    have hcuts := DialectName.cuts_commas fun i hi => (hitems i hi).spells
    refine ⟨⟨n.wordKind (d.typeName name), d.typeName name⟩ ::
        Lexeme.bracketed (Lexeme.commas ((i :: rest).map (·.2))), ?_, ⟨_, _, rfl, hkind⟩,
      fun k => reads_dataType k fun nested k hnested => ?_⟩
    · have htext : d.writeType (.mk name ((i :: rest).map (·.1))) = d.typeName name ++ "(" ++
          String.intercalate ", " ((i :: rest).map fun i => d.writeTypeParam i.1) ++ ")" := by
        rw [Dialect.writeType, hwrite]
        rfl
      rw [htext]
      exact DialectName.spells_called hword hcuts
    · have hlist := Reads.csvToEndBracket (F := EndsType) (fun i hi => (hitems i hi).reads nested k
        hnested) (fun h => by cases h) (fun h => by cases h) fun i hi => (hitems i hi).first
      have hread := reads_typeLayer_params (w := d.typeName name) hkind hlist
      rw [hcanon]
      exact hread.mono (Nat.le_refl _) fun _ _ => trivial

/-- A parameter comes back if the type comes back that it may be. -/
theorem writtenParam_of_type (hd : n.Makes d) {p : TypeParam DataType}
    (hp : DataType.NamesOf n.SpellsType p)
    (htype : ∀ t, p = .type t → ∃ ls, WrittenType n d t ls) : ∃ ls, WrittenParam n d p ls := by
  cases p with
  | number digits =>
    refine ⟨_, DialectName.spells_numeral hp, ⟨_, _, rfl, fun h => by cases h⟩, ?_⟩
    intro nested k _
    refine Reads.peek_bind fun t next _ ht => ?_
    have hkind : t.kind = .numericLiteral := congrArg Lexeme.kind ht
    rw [hkind]
    refine Reads.advance_bind (m := k) (fun h => by cases h) (fun t ht => ?_) (Nat.le_succ k)
    have htext : t.text = digits := congrArg Lexeme.text ht
    rw [htext]
    exact Reads.pure k _ _
  | text value =>
    refine ⟨_, DialectName.spells_string hd value, ⟨_, _, rfl, fun h => by cases h⟩, ?_⟩
    intro nested k _
    refine Reads.peek_bind fun t next _ ht => ?_
    have hkind : t.kind = .stringLiteral := congrArg Lexeme.kind ht
    rw [hkind]
    refine Reads.advance_bind (m := k) (fun h => by cases h) (fun t ht => ?_) (Nat.le_succ k)
    rw [stringValue_of_lexeme hd ht]
    exact Reads.pure k _ _
  | type t =>
    obtain ⟨ls, ht⟩ := htype t rfl
    obtain ⟨l, ms, rfl, hl⟩ := ht.first
    refine ⟨l :: ms, ht.spells, ⟨l, ms, rfl, ?_⟩, ?_⟩
    · rcases hl with hl | hl <;> rw [hl] <;> exact fun h => by cases h
    · intro nested k hnested
      refine Reads.peek_bind fun token next _ htoken => ?_
      have hkind : token.kind = l.kind := congrArg Lexeme.kind htoken
      have hread := ((ht.reads k).of_agree hnested).map_pure TypeParam.type
      rw [hkind]
      rcases hl with hl | hl
      · rw [hl]
        exact hread
      · rw [hl]
        exact hread

/-- **A type comes back in its canonical form.** -/
theorem writtenType (hd : n.Makes d) {t : DataType} (ht : t.Names n.SpellsType) :
    ∃ ls, WrittenType n d t ls := by
  induction t using DataType.induction with
  | step name params ih =>
    refine writtenType_of_params hd ht.1 fun p hp => ?_
    have hnames := DataType.namesIn_iff.1 ht.2 p hp
    refine writtenParam_of_type hd hnames fun t ht => ?_
    subst ht
    exact ih t hp hnames

end Grammar

end SqlDialects
