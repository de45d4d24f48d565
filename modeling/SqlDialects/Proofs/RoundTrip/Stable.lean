import SqlDialects.Proofs.RoundTrip.Parsed
import SqlDialects.Proofs.RoundTrip.Written
import SqlDialects.Proofs.RoundTrip.Types

/-!
# The canonical form is written alike

What is read back from a text is written as that text again, so after one round
nothing changes any more.  The canonical form differs from the expression in names,
and each of these names is written as the one that it took the place of: quoted
names were quoted before, cased names are cased to themselves, and the dialect's
spelling of a type is resolved to a type of the same spelling.

The last is so for names of types that came from reading.  Another name may be
spelled as one that is resolved to something else: the name `STRING` is written as
it is in standard SQL, but a dialect that takes it for an alias of `TEXT` never
reads it.
-/

namespace SqlDialects

variable {n : DialectName} {d : Dialect}

/-! ## Names -/

namespace Dialect

theorem quotes_canonIdentifier (d : Dialect) (id : Identifier) :
    d.quotes (d.canonIdentifier id) = d.quotes id := by
  cases h : d.quotes id with
  | true =>
    show (d.quotes id || d.style.quoteAll || !Text.isPlainName id.name || d.isReserved id.name) = _
    rw [h]
    rfl
  | false =>
    have hid : d.canonIdentifier id = id := by
      unfold canonIdentifier
      rw [h, ← (isPlainName_of_quotes_eq_false h).1]
    rw [hid, h]

theorem writeIdentifier_canonIdentifier (d : Dialect) (id : Identifier) :
    d.writeIdentifier (d.canonIdentifier id) = d.writeIdentifier id := by
  unfold writeIdentifier
  rw [quotes_canonIdentifier]
  rfl

end Dialect

theorem CallCase.apply_apply (k : CallCase) (w : String) : k.apply (k.apply w) = k.apply w := by
  cases k with
  | upper => exact Text.toUpper_idem w
  | lower => exact Text.toLower_idem w
  | asWritten => rfl

theorem Render.tupleWord_tupleWord (surface : Option String) :
    Render.tupleWord (some (Render.tupleWord surface)) = Render.tupleWord surface := by
  have htuple : Render.tupleWord (some "tuple") = "tuple" := by decide +kernel
  cases surface with
  | none => exact htuple
  | some word =>
    by_cases hsame : Text.sameIgnoringCase word "tuple" = true
    · have hword : Render.tupleWord (some word) = word := if_pos hsame
      rw [hword, hword]
    · have hword : Render.tupleWord (some word) = "tuple" := if_neg hsame
      rw [hword, htuple]

/-! ## Types -/

/-- A name that the dialect has no spelling for is resolved to itself when it was written. -/
theorem DialectName.Makes.canonTypeName_of_find?_eq_none (hd : n.Makes d) {name : String}
    (h : n.Canonical name) (hfind : n.draft.typeNames.find? name = none) :
    d.canonTypeName name = name := by
  unfold Dialect.canonTypeName
  rw [hd.canonicalType, hd.typeName, hfind, Option.getD_none, h.toUpper, h.notAlias,
    Option.getD_none]

/-- A name that the dialect resolves to itself is spelled as the name is that its spelling is
resolved to. -/
theorem DialectName.Makes.typeName_canonTypeName (hd : n.Makes d) {name : String}
    (h : n.Canonical name) : d.typeName (d.canonTypeName name) = d.typeName name := by
  cases hfind : n.draft.typeNames.find? name with
  | none => rw [hd.canonTypeName_of_find?_eq_none h hfind]
  | some spelling =>
    have hall : ∀ e ∈ n.draft.typeNames,
        (n.draft.typeNames.find? ((n.draft.typeAliases.find? e.2.toUpper).getD e.2.toUpper)).getD
          ((n.draft.typeAliases.find? e.2.toUpper).getD e.2.toUpper) = e.2 := by
      cases n <;> decide +kernel
    unfold Dialect.canonTypeName
    rw [hd.canonicalType, hd.typeName, hd.typeName, hfind]
    exact hall _ (Table.mem_of_find?_eq_some hfind)

theorem Dialect.writeType_canonType (hd : n.Makes d) {t : DataType} (h : t.Names n.Canonical) :
    d.writeType (d.canonType t) = d.writeType t := by
  induction t using DataType.induction with
  | step name params ih =>
    have hname := hd.typeName_canonTypeName h.1
    have hparams : d.writeTypeParams (DataType.renameParams d.canonTypeName params) =
        d.writeTypeParams params := by
      rw [Grammar.writeTypeParams_eq_map, Grammar.writeTypeParams_eq_map,
        DataType.renameParams_eq_map, List.map_map]
      refine List.map_congr_left fun p hp => ?_
      have hp' := DataType.namesIn_iff.1 h.2 p hp
      cases p with
      | number digits => rfl
      | text value => rfl
      | type t => exact ih t hp hp'
    show d.writeType (.mk (d.canonTypeName name) (DataType.renameParams d.canonTypeName params)) = _
    unfold Dialect.writeType
    rw [hparams, hname]

/-! ## Nodes -/

namespace Readable

variable {P : String → Prop} {place : Position}

/-- What stands in something readable is readable at a place of its own. -/
theorem exists_of_mem_children {e c : Expr} (h : Readable n P place e) (hc : c ∈ e.children) :
    ∃ place', Readable n P place' c := by
  induction h with
  | identifier | compound | literal | star => cases hc
  | source _ ih | element _ ih | table _ ih => exact ih hc
  | binary hleft hright =>
    rcases List.mem_cons.1 hc with rfl | hc
    · exact ⟨_, hleft⟩
    · exact ⟨_, List.mem_singleton.1 hc ▸ hright⟩
  | regexpLike hthis hpattern =>
    rcases List.mem_cons.1 hc with rfl | hc
    · exact ⟨_, hthis⟩
    · exact ⟨_, List.mem_singleton.1 hc ▸ hpattern⟩
  | quantile _ hthis hlevel =>
    rcases List.mem_cons.1 hc with rfl | hc
    · exact ⟨_, hthis⟩
    · exact ⟨_, List.mem_singleton.1 hc ▸ hlevel⟩
  | unary h | paren h | cast h | approxDistinct h | anyValue h | named h | namedTable h
  | final _ h =>
    exact ⟨_, List.mem_singleton.1 hc ▸ h⟩
  | tuple h | call _ h | struct _ _ h => exact ⟨_, h c hc⟩
  | varMap _ _ hkeys hvalues =>
    rcases List.mem_append.1 hc with hc | hc
    · exact ⟨_, hkeys c hc⟩
    · exact ⟨_, hvalues c hc⟩
  | subquery _ ih => exact ih hc
  | @select q _ h₁ h₂ h₃ h₄ h₅ h₆ h₇ =>
    have hall : q.All fun c => ∃ place', Readable n P place' c :=
      ⟨fun e he => ⟨_, h₁ e he⟩, fun e he => ⟨_, h₂ e he⟩, fun e he => ⟨_, h₃ e he⟩,
        fun e he => ⟨_, h₄ e he⟩, fun e he => ⟨_, h₅ e he⟩, fun o ho => ⟨_, h₆ o ho⟩,
        fun e he => ⟨_, h₇ e he⟩⟩
    exact Query.all_iff.1 hall c hc

/-- The names in the type of a readable cast are as they should be. -/
theorem names_of_cast {this : Expr} {target : DataType}
    (h : Readable n P place (.cast this target)) : target.Names P := by
  generalize he : Expr.cast this target = e at h
  induction h with
  | source _ ih | element _ ih | table _ ih => exact ih he
  | cast _ htarget =>
    cases he
    exact htarget
  | _ => cases he

end Readable

namespace Dialect

/-- Making the choices at a node is no business of its children. -/
theorem canonNode_map (d : Dialect) (node : Node Expr) (f : Expr → Expr) :
    d.canonNode (node.map f) = (d.canonNode node).map f := by
  cases node <;> rfl

/-- An expression and its canonical form have the same operator at the top, if any. -/
theorem precedence?_canon (d : Dialect) (e : Expr) :
    Render.precedence? (d.canon e) = Render.precedence? e := by
  obtain ⟨node⟩ := e
  rw [canon_mk]
  cases node <;> rfl

theorem isNamed_canon (d : Dialect) (e : Expr) : Render.isNamed (d.canon e) = Render.isNamed e := by
  obtain ⟨node⟩ := e
  rw [canon_mk]
  cases node <;> rfl

end Dialect

section Nodes

variable {f : Expr → Child}

/-- **A node is written as it was once the choices at it are made.** -/
theorem DialectName.Makes.node_canonNode (hd : n.Makes d) {node : Node Expr}
    (h : ∀ this target, node = .cast this target → target.Names n.Canonical) :
    Render.node d ((d.canonNode node).map f) = Render.node d (node.map f) := by
  have hplain : ∀ kind ∈ Kind.all, kind.isPlain = true → d.renderings.find? kind = none := by
    rw [hd.renderings]
    cases n <;> decide
  cases node with
  | identifier id =>
    have hnone := hplain .identifier (by decide) rfl
    show Render.node d (.identifier (d.canonIdentifier id)) = Render.node d (.identifier id)
    rw [Render.node_eq_plain hnone, Render.node_eq_plain hnone]
    show pure (d.writeIdentifier (d.canonIdentifier id)) = _
    rw [d.writeIdentifier_canonIdentifier]
    rfl
  | compound parts =>
    have hnone := hplain .compoundIdentifier (by decide) rfl
    show Render.node d (.compound (parts.map d.canonIdentifier)) = Render.node d (.compound parts)
    rw [Render.node_eq_plain hnone, Render.node_eq_plain hnone]
    show pure (String.intercalate "." ((parts.map d.canonIdentifier).map d.writeIdentifier)) = _
    have hparts : (parts.map d.canonIdentifier).map d.writeIdentifier =
        parts.map d.writeIdentifier := by
      rw [List.map_map]
      exact List.map_congr_left fun id _ => d.writeIdentifier_canonIdentifier id
    rw [hparts]
    rfl
  | aliased this name =>
    have hnone := hplain .aliased (by decide) rfl
    show Render.node d (.aliased (f this) (d.canonIdentifier name)) =
      Render.node d (.aliased (f this) name)
    rw [Render.node_eq_plain hnone, Render.node_eq_plain hnone]
    simp only [Render.plain, d.writeIdentifier_canonIdentifier]
  | call name args =>
    have hnone := hplain .function (by decide) rfl
    show Render.node d (.call (d.style.callCase.apply name) (args.map f)) =
      Render.node d (.call name (args.map f))
    rw [Render.node_eq_plain hnone, Render.node_eq_plain hnone]
    show Render.called (d.style.callCase.apply (d.style.callCase.apply name)) _ = _
    rw [CallCase.apply_apply]
    rfl
  | struct elements surface =>
    show Render.node d (.struct (elements.map f) (some (d.structWord surface))) =
      Render.node d (.struct (elements.map f) surface)
    unfold Render.node Dialect.structWord
    rw [hd.renderings]
    cases n with
    | ansi => rfl
    | bigquery => rfl
    | clickhouse =>
      show (Traced.note _ >>= fun _ =>
        Render.called (Render.tupleWord (some (Render.tupleWord surface))) _) = _
      rw [Render.tupleWord_tupleWord]
      rfl
  | cast this target =>
    have hnone := hplain .cast (by decide) rfl
    show Render.node d (.cast (f this) (d.canonType target)) =
      Render.node d (.cast (f this) target)
    rw [Render.node_eq_plain hnone, Render.node_eq_plain hnone]
    simp only [Render.plain, Dialect.writeType_canonType hd (h this target rfl)]
  | _ => rfl

end Nodes

/-- **The canonical form of what was read is written alike.** -/
theorem Readable.render_canon (hd : n.Makes d) {place : Position} {e : Expr}
    (h : Readable n n.Canonical place e) : d.render (d.canon e) = d.render e := by
  induction e using Expr.induction generalizing place with
  | step node ih =>
    have halike : ∀ c ∈ node.children,
        Render.Alike (d.canon c, d.render (d.canon c)) (c, d.render c) := by
      intro c hc
      obtain ⟨place', hplace⟩ := h.exists_of_mem_children hc
      exact ⟨d.precedence?_canon c, d.isNamed_canon c, ih c hc hplace⟩
    have hcast : ∀ this target, node = .cast this target → target.Names n.Canonical := by
      rintro this target rfl
      exact h.names_of_cast
    rw [Dialect.canon_mk, d.canonNode_map, Dialect.render_mk, Node.map_map, hd.node_canonNode hcast,
      Dialect.render_mk]
    exact Render.node_congr halike

end SqlDialects
