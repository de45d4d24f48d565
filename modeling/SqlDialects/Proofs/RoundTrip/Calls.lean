import SqlDialects.Proofs.RoundTrip.Terms

/-!
# Calls come back

Every call is a word, an opening bracket, something, and a closing bracket.  The
word says how the rest is read: by a syntax of its own, or as arguments from which
something may be built.  So for each form of expression that is written as a call
there are two things to see: that the dialect writes it under a word, and that
under this word the dialect reads such an expression.

Words are looked up in uppercase, and only ASCII letters have two cases, so all
that matters about the case of a name is settled by its uppercase form.
-/

namespace SqlDialects

variable {n : DialectName} {d : Dialect}

/-- A word that calls may be written under, by its uppercase form. -/
structure CallWord (n : DialectName) (w key : String) : Prop where
  toUpper : w.toUpper = key
  isWord : Text.isWord key.toList = true
  notReserved : n.lexer.reserved.contains key = false

namespace CallWord

variable {w key : String}

theorem isWord_word (h : CallWord n w key) : Text.isWord w.toList = true := by
  rw [← Text.isWord_toUpper, h.toUpper]
  exact h.isWord

theorem wordKind (h : CallWord n w key) : n.wordKind w = .word := by
  have hreserved : n.lexer.isReserved w = false := by
    unfold Lexer.isReserved
    rw [h.toUpper]
    exact h.notReserved
  unfold DialectName.wordKind
  rw [hreserved]
  rfl

/-- Casing a name changes nothing about its uppercase form. -/
theorem apply (h : CallWord n w key) (k : CallCase) : CallWord n (k.apply w) key :=
  ⟨(Text.toUpper_apply k w).trans h.toUpper, h.isWord, h.notReserved⟩

theorem key_of_lexeme (h : CallWord n w key) {t : Token} (ht : t.lexeme = .word w) :
    t.key = key := by
  have htext : t.text = w := congrArg Lexeme.text ht
  unfold Token.key
  rw [htext, h.toUpper]

end CallWord

/-! ## Calls in general -/

/-- The spelling of a call, by what stands between its brackets. -/
def Spelling.called (w : String) (inner : Spelling) : Spelling :=
  ⟨w ++ "(" ++ inner.text ++ ")", .word w :: Lexeme.bracketed inner.lexemes⟩

namespace Grammar

/-- What a call is behind its opening bracket. -/
def callTail (d : Dialect) (nested : Nat → Parser Expr) (name : Token) : Parser Expr :=
  match d.callSyntaxes.find? name.key with
  | some callSyntax => do
    Parser.note (.ownParsing d.name name.text)
    callRest d nested name callSyntax
  | none => plainCall d nested name

theorem readsOperand_called {w : String} {ls : List Lexeme} {e : Expr}
    (h : ∀ nested k, Nested d nested k → ∀ name, Token.lexeme name = .word w →
      Reads k (callTail d nested name) (ls ++ [.endBracket]) e EndsPrimary) :
    ReadsOperand d (.word w :: Lexeme.bracketed ls) e 9 := by
  refine readsOperand_primary ⟨_, _, rfl, rfl⟩ fun nested k hnested => ?_
  refine Reads.peek_bind fun t next _ ht => ?_
  have hkind : t.kind = .word := congrArg Lexeme.kind ht
  rw [hkind]
  refine Reads.peekAhead_bind fun t next _ ht => ?_
  have hkind : t.kind = .startBracket := congrArg Lexeme.kind ht
  rw [hkind]
  show Reads (k + 1) (call d nested) _ _ _
  refine Reads.expect_bind (l := .word w) (m := k) nofun (fun name hname => ?_) (Nat.le_refl _)
  exact Reads.discard_expect_bind (l := .startBracket) (m := k) nofun
    (h nested k hnested name hname) (Nat.le_succ k)

variable {nested : Nat → Parser Expr} {k : Nat} {e : Expr}
  {items : List (Expr × Spelling)}

/-- A plain call makes what the builder for its name makes of the arguments. -/
theorem reads_plainCall (name : Token) (h : ∀ i ∈ items, WrittenOperand n d i.1 i.2)
    (hnested : Nested d nested k)
    (hbuild : (match d.callBuilders.find? name.key with
      | some builder => Parser.built name (builder.build (items.map fun i => d.canon i.1))
      | none => pure (.call name.text (items.map fun i => d.canon i.1))) =
        (pure e : Parser Expr)) :
    Reads k (plainCall d nested name) ((Spelling.commas items).lexemes ++ [.endBracket]) e
      AnyNext :=
  (reads_operands h hnested).bind_pure hbuild

end Grammar

/-- **What is written as a call comes back**, if under its word what stands in the brackets is read
as it. -/
theorem writtenOperand_called {w key : String} (hw : CallWord n w key) {inner : Spelling} {e : Expr}
    (hcuts : n.lexer.Cuts Closes inner.text.toList inner.lexemes)
    (hrenders : (d.render e).outcome = .ok (inner.called w).text) (hstrength : e.strength = 9)
    (hread : ∀ nested k, Grammar.Nested d nested k → ∀ name, Token.lexeme name = .word w →
      Reads k (Grammar.callTail d nested name) (inner.lexemes ++ [.endBracket]) (d.canon e)
        Grammar.EndsPrimary) :
    WrittenOperand n d e (inner.called w) where
  renders := hrenders
  spells := by
    have hspells := DialectName.spells_called hw.isWord_word hcuts
    rw [hw.wordKind] at hspells
    exact hspells
  first := ⟨_, _, rfl, startsOperand_of_kind nofun nofun⟩
  reads := by
    rw [hstrength]
    exact Grammar.readsOperand_called hread

/-! ## Plain calls -/

theorem Dialect.outcome_called {w : String} {items : List (Expr × Spelling)}
    (h : ∀ i ∈ items, (d.render i.1).outcome = .ok i.2.text) :
    (Render.called w ((items.map (·.1)).map fun e => (e, d.render e))).outcome =
      .ok ((Spelling.commas items).called w).text := by
  rw [List.map_map]
  exact Render.outcome_called w (fun i : Expr × Spelling => (i.1, d.render i.1)) h

/-- An expression that is written as a plain call comes back if the builder for its word builds it
again. -/
theorem writtenOperand_plainCall (hd : n.Makes d) {w key : String} (hw : CallWord n w key)
    (hcallSyntax : n.draft.callSyntaxes.find? key = none) {items : List (Expr × Spelling)}
    {e : Expr}
    (h : ∀ i ∈ items, WrittenOperand n d i.1 i.2)
    (hrenders : (d.render e).outcome = .ok ((Spelling.commas items).called w).text)
    (hstrength : e.strength = 9)
    (hbuild : ∀ name, Token.lexeme name = .word w → (match n.draft.callBuilders.find? key with
      | some builder => Parser.built name (builder.build (items.map fun i => d.canon i.1))
      | none => pure (.call name.text (items.map fun i => d.canon i.1))) =
        (pure (d.canon e) : Parser Expr)) :
    WrittenOperand n d e ((Spelling.commas items).called w) := by
  refine writtenOperand_called hw (Spelling.cuts_commas fun i hi => (h i hi).spells) hrenders
    hstrength fun nested k hnested name hname => ?_
  have hkey := hw.key_of_lexeme hname
  have hread := Grammar.reads_plainCall name (e := d.canon e) h hnested (by
    rw [hkey, hd.callBuilders]
    exact hbuild name hname)
  unfold Grammar.callTail
  rw [hkey, hd.callSyntaxes, hcallSyntax]
  exact hread.mono (Nat.le_refl k) fun _ _ => trivial

theorem ReadableCall.callWord {name : String} {args : List Expr} (h : ReadableCall n name args) :
    CallWord n name name.toUpper where
  toUpper := rfl
  isWord := (Text.isWord_toUpper name).trans h.isWord
  notReserved := h.notReserved

/-- A plain call is written under its name, cased in the dialect's way. -/
theorem Dialect.outcome_render_call (hd : n.Makes d) (name : String)
    {items : List (Expr × Spelling)} (h : ∀ i ∈ items, WrittenOperand n d i.1 i.2) :
    (d.render (.call name (items.map (·.1)))).outcome =
      .ok ((Spelling.commas items).called (d.style.callCase.apply name)).text := by
  rw [hd.render_plain _ rfl]
  exact Dialect.outcome_called fun i hi => (h i hi).renders

theorem writtenOperand_call (hd : n.Makes d) {name : String} {items : List (Expr × Spelling)}
    (hcall : ReadableCall n name (items.map (·.1))) (h : ∀ i ∈ items, WrittenOperand n d i.1 i.2) :
    WrittenOperand n d (.call name (items.map (·.1)))
      ((Spelling.commas items).called (d.style.callCase.apply name)) := by
  have hword := hcall.callWord.apply d.style.callCase
  have hcanon : d.canon (.call name (items.map (·.1))) =
      .call (d.style.callCase.apply name) (items.map fun i => d.canon i.1) := by
    rw [Dialect.canon_mk]
    show Expr.call _ ((items.map (·.1)).map d.canon) = _
    rw [List.map_map]
    rfl
  have hrenders := Dialect.outcome_render_call hd name h
  rcases hcall.plain with ⟨hcallSyntax, hbuilder⟩ | ⟨hcallSyntax, hargs⟩
  · refine writtenOperand_plainCall hd hword hcallSyntax h hrenders rfl fun t ht => ?_
    have htext : t.text = d.style.callCase.apply name := congrArg Lexeme.text ht
    rw [hbuilder, hcanon, htext]
  · obtain rfl : items = [] := List.map_eq_nil_iff.1 hargs
    refine writtenOperand_called hword (Lexer.Cuts.nil _ _) hrenders rfl fun nested k _ t ht => ?_
    have htext : t.text = d.style.callCase.apply name := congrArg Lexeme.text ht
    unfold Grammar.callTail
    rw [hword.key_of_lexeme ht, hd.callSyntaxes, hcallSyntax, hcanon]
    refine Reads.note_bind ?_
    have hparams : Reads k (Parser.csvToEndBracket (nested 0)) [.endBracket] [] AnyNext :=
      Reads.consume_bind_true (l := .endBracket) nofun (Reads.pure k [] AnyNext) (Nat.le_succ k)
    refine hparams.bind_end ?_ fun _ _ => trivial
    refine Reads.consume_bind_false (fun next hnext => hnext.1) ?_
    rw [← htext]
    exact Reads.pure k _ _

/-! ## Calls from which something is built -/

/-- The word that a dialect writes something under that is built from the arguments of a call. -/
def CallBuilder.word (n : DialectName) (k : CallCase) : CallBuilder → String
  | .approxDistinct => if n = .clickhouse then "uniq" else k.apply "APPROX_DISTINCT"
  | .anyValue => if n = .clickhouse then "any" else k.apply "ANY_VALUE"
  | .regexpLike => if n = .clickhouse then "match" else k.apply "REGEXP_LIKE"
  | .varMap => "map"

/-- Under the word that something is written under it is built again. -/
theorem CallBuilder.exists_callWord (n : DialectName) (k : CallCase) (b : CallBuilder)
    (hb : b = .varMap → n = .clickhouse) :
    ∃ key, CallWord n (b.word n k) key ∧ n.draft.callSyntaxes.find? key = none ∧
      n.draft.callBuilders.find? key = some b := by
  have hplain : ∀ {w : String}, w.toUpper = w → Text.isWord w.toList = true →
      n.lexer.reserved.contains w = false → CallWord n (k.apply w) w :=
    fun hw hword hreserved => ⟨(Text.toUpper_apply k _).trans hw, hword, hreserved⟩
  have hown : ∀ {w key : String}, w.toUpper = key → Text.isWord key.toList = true →
      n.lexer.reserved.contains key = false → CallWord n w key := CallWord.mk
  cases b with
  | approxDistinct =>
    cases n with
    | ansi =>
      exact ⟨"APPROX_DISTINCT", hplain (by decide +kernel) (by decide) (by decide), rfl, rfl⟩
    | bigquery =>
      exact ⟨"APPROX_DISTINCT", hplain (by decide +kernel) (by decide) (by decide), rfl, rfl⟩
    | clickhouse =>
      exact ⟨"UNIQ", hown (w := "uniq") (by decide +kernel) (by decide) (by decide), rfl, rfl⟩
  | anyValue =>
    cases n with
    | ansi => exact ⟨"ANY_VALUE", hplain (by decide +kernel) (by decide) (by decide), rfl, rfl⟩
    | bigquery => exact ⟨"ANY_VALUE", hplain (by decide +kernel) (by decide) (by decide), rfl, rfl⟩
    | clickhouse =>
      exact ⟨"ANY", hown (w := "any") (by decide +kernel) (by decide) (by decide), rfl, rfl⟩
  | regexpLike =>
    cases n with
    | ansi => exact ⟨"REGEXP_LIKE", hplain (by decide +kernel) (by decide) (by decide), rfl, rfl⟩
    | bigquery =>
      exact ⟨"REGEXP_LIKE", hplain (by decide +kernel) (by decide) (by decide), rfl, rfl⟩
    | clickhouse =>
      exact ⟨"MATCH", hown (w := "match") (by decide +kernel) (by decide) (by decide), rfl, rfl⟩
  | varMap =>
    obtain rfl := hb rfl
    exact ⟨"MAP", hown (w := "map") (by decide +kernel) (by decide) (by decide), rfl, rfl⟩

/-- What is built from the arguments of a call comes back. -/
theorem writtenOperand_built (hd : n.Makes d) {b : CallBuilder} (hb : b = .varMap → n = .clickhouse)
    {items : List (Expr × Spelling)} {e : Expr} (h : ∀ i ∈ items, WrittenOperand n d i.1 i.2)
    (hrenders : (d.render e).outcome =
      .ok ((Spelling.commas items).called (b.word n d.style.callCase)).text)
    (hstrength : e.strength = 9)
    (hbuild : b.build (items.map fun i => d.canon i.1) = .ok (d.canon e)) :
    WrittenOperand n d e ((Spelling.commas items).called (b.word n d.style.callCase)) := by
  obtain ⟨key, hword, hcallSyntax, hbuilder⟩ := b.exists_callWord n d.style.callCase hb
  refine writtenOperand_plainCall hd hword hcallSyntax h hrenders hstrength fun name _ => ?_
  rw [hbuilder]
  simp only [hbuild]
  rfl

/-- A kind that is written as a known call: under a name of its own in one dialect, and under a
plain name in the others. -/
theorem Dialect.outcome_render_known (hd : n.Makes d) {items : List (Expr × Spelling)}
    (h : ∀ i ∈ items, WrittenOperand n d i.1 i.2) (node : Node Expr) {plainName ownName : String}
    (hplain : Render.plain d (node.map fun e => (e, d.render e)) =
      Render.call d plainName ((items.map (·.1)).map fun e => (e, d.render e)))
    (hown : Render.own d (.renamed ownName) (node.map fun e => (e, d.render e)) =
      Render.called ownName ((items.map (·.1)).map fun e => (e, d.render e)))
    (hansi : DialectName.ansi.draft.renderings.find? node.kind = none)
    (hbigquery : DialectName.bigquery.draft.renderings.find? node.kind = none)
    (hclickhouse :
      DialectName.clickhouse.draft.renderings.find? node.kind = some (.renamed ownName)) :
    (d.render (.mk node)).outcome = .ok ((Spelling.commas items).called
      (if n = .clickhouse then ownName else d.style.callCase.apply plainName)).text := by
  have hcalled : ∀ w, (Render.called w ((items.map (·.1)).map fun e => (e, d.render e))).outcome =
      .ok ((Spelling.commas items).called w).text :=
    fun w => Dialect.outcome_called fun i hi => (h i hi).renders
  cases n with
  | ansi =>
    rw [hd.render_of_find?_eq_none node hansi, hplain]
    exact hcalled _
  | bigquery =>
    rw [hd.render_of_find?_eq_none node hbigquery, hplain]
    exact hcalled _
  | clickhouse =>
    rw [hd.outcome_render_own node hclickhouse, hown]
    exact hcalled _

theorem exists_writtenOperand_approxDistinct (hd : n.Makes d) {this : Expr} {s : Spelling}
    (hthis : WrittenOperand n d this s) : ∃ t, WrittenOperand n d (.approxDistinct this) t := by
  have hitems : ∀ i ∈ [(this, s)], WrittenOperand n d i.1 i.2 := List.forall_mem_singleton.2 hthis
  have hrenders := Dialect.outcome_render_known hd hitems (.approxDistinct this) rfl rfl rfl rfl rfl
  exact ⟨_, writtenOperand_built hd (b := .approxDistinct) nofun hitems hrenders rfl rfl⟩

theorem exists_writtenOperand_anyValue (hd : n.Makes d) {this : Expr} {s : Spelling}
    (hthis : WrittenOperand n d this s) : ∃ t, WrittenOperand n d (.anyValue this) t := by
  have hitems : ∀ i ∈ [(this, s)], WrittenOperand n d i.1 i.2 := List.forall_mem_singleton.2 hthis
  have hrenders := Dialect.outcome_render_known hd hitems (.anyValue this) rfl rfl rfl rfl rfl
  exact ⟨_, writtenOperand_built hd (b := .anyValue) nofun hitems hrenders rfl rfl⟩

theorem exists_writtenOperand_regexpLike (hd : n.Makes d) {this pattern : Expr} {s t : Spelling}
    (hthis : WrittenOperand n d this s) (hpattern : WrittenOperand n d pattern t) :
    ∃ t, WrittenOperand n d (.regexpLike this pattern) t := by
  have hitems : ∀ i ∈ [(this, s), (pattern, t)], WrittenOperand n d i.1 i.2 :=
    List.forall_mem_cons.2 ⟨hthis, List.forall_mem_singleton.2 hpattern⟩
  have hrenders :=
    Dialect.outcome_render_known hd hitems (.regexpLike this pattern) rfl rfl rfl rfl rfl
  exact ⟨_, writtenOperand_built hd (b := .regexpLike) nofun hitems hrenders rfl rfl⟩

/-! ## Maps -/

/-- Taking every other element undoes putting two lists together. -/
theorem alternate_interleave {α : Type} {xs ys : List α} (h : xs.length = ys.length) :
    alternate (interleave xs ys) = (xs, ys) := by
  induction xs generalizing ys with
  | nil =>
    obtain rfl : ys = [] := List.eq_nil_of_length_eq_zero h.symm
    rfl
  | cons x xs ih =>
    cases ys with
    | nil => cases h
    | cons y ys =>
      have hrest := ih (Nat.succ.inj h)
      show alternate (x :: y :: interleave xs ys) = _
      rw [alternate, alternate, hrest]

theorem length_interleave {α : Type} (xs ys : List α) : (interleave xs ys).length % 2 = 0 := by
  unfold interleave
  induction xs.zip ys with
  | nil => rfl
  | cons p ps ih =>
    rw [List.flatMap_cons, List.length_append]
    show (2 + _) % 2 = 0
    omega

theorem writtenOperand_varMap {d : Dialect} (hd : DialectName.clickhouse.Makes d)
    {keys values : List (Expr × Spelling)} (hlength : keys.length = values.length)
    (hkeys : ∀ i ∈ keys, WrittenOperand .clickhouse d i.1 i.2)
    (hvalues : ∀ i ∈ values, WrittenOperand .clickhouse d i.1 i.2) :
    WrittenOperand .clickhouse d (.varMap (keys.map (·.1)) (values.map (·.1)))
      ((Spelling.commas (interleave keys values)).called "map") := by
  have hitems : ∀ i ∈ interleave keys values, WrittenOperand .clickhouse d i.1 i.2 := by
    intro i hi
    rcases mem_of_mem_interleave hi with hi | hi
    · exact hkeys i hi
    · exact hvalues i hi
  refine writtenOperand_built hd (b := .varMap) (fun _ => rfl) hitems ?_ rfl ?_
  · rw [hd.outcome_render_own (.varMap _ _) (r := .map) rfl]
    have hcalled := Dialect.outcome_called (w := "map") fun i hi => (hitems i hi).renders
    rw [map_interleave, map_interleave] at hcalled
    exact hcalled
  · rw [map_interleave, Dialect.canon_mk]
    show (if (interleave _ _).length % 2 ≠ 0 then _ else _) = _
    rw [if_neg (by rw [length_interleave]; exact fun h => h rfl),
      alternate_interleave (by rw [List.length_map, List.length_map, hlength])]
    show Except.ok (Expr.varMap _ _) = .ok (Expr.varMap ((keys.map (·.1)).map d.canon) _)
    rw [List.map_map]
    show _ = Except.ok (Expr.varMap _ ((values.map (·.1)).map d.canon))
    rw [List.map_map]
    rfl

/-! ## Structures -/

/-- The word before the elements of a structure begins one. -/
theorem callWord_structWord (hd : n.Makes d) (hn : n ≠ .ansi) (surface : Option String) :
    ∃ key, CallWord n (d.structWord surface) key ∧
      n.draft.callSyntaxes.find? key = some .struct := by
  unfold Dialect.structWord
  rw [hd.renderings]
  cases n with
  | ansi => exact absurd rfl hn
  | bigquery =>
    have hstruct : "STRUCT".toUpper = "STRUCT" := by decide +kernel
    exact ⟨"STRUCT", ⟨hstruct, by decide, by decide⟩, rfl⟩
  | clickhouse =>
    refine ⟨"TUPLE", ⟨?_, by decide, by decide⟩, rfl⟩
    show (Render.tupleWord surface).toUpper = "TUPLE"
    have htuple : "tuple".toUpper = "TUPLE" := by decide +kernel
    unfold Render.tupleWord
    cases surface with
    | none => exact htuple
    | some word =>
      show (if Text.sameIgnoringCase word "tuple" then word else "tuple").toUpper = "TUPLE"
      by_cases hsame : Text.sameIgnoringCase word "tuple" = true
      · rw [if_pos hsame, ← htuple]
        exact beq_iff_eq.1 hsame
      · rw [if_neg hsame]
        exact htuple

theorem Dialect.outcome_render_struct (hd : n.Makes d) (hn : n ≠ .ansi)
    {items : List (Expr × Spelling)} (h : ∀ i ∈ items, WrittenElement n d i.1 i.2)
    (surface : Option String) :
    (d.render (.struct (items.map (·.1)) surface)).outcome =
      .ok ((Spelling.commas items).called (d.structWord surface)).text := by
  have hcalled : ∀ w, (Render.called w ((items.map (·.1)).map fun e => (e, d.render e))).outcome =
      .ok ((Spelling.commas items).called w).text :=
    fun w => Dialect.outcome_called fun i hi => (h i hi).renders
  unfold Dialect.structWord
  rw [hd.renderings]
  cases n with
  | ansi => exact absurd rfl hn
  | bigquery =>
    rw [hd.outcome_render_own (.struct _ _) (r := .struct) rfl]
    exact hcalled _
  | clickhouse =>
    rw [hd.outcome_render_own (.struct _ _) (r := .tuple) rfl]
    exact hcalled _

/-- **A structure comes back**, its named elements included. -/
theorem writtenOperand_struct (hd : n.Makes d) (hn : n ≠ .ansi) {items : List (Expr × Spelling)}
    (h : ∀ i ∈ items, WrittenElement n d i.1 i.2) (surface : Option String) :
    WrittenOperand n d (.struct (items.map (·.1)) surface)
      ((Spelling.commas items).called (d.structWord surface)) := by
  obtain ⟨key, hword, hcallSyntax⟩ := callWord_structWord hd hn surface
  have hcanon : d.canon (.struct (items.map (·.1)) surface) =
      .struct (items.map fun i => d.canon i.1) (some (d.structWord surface)) := by
    rw [Dialect.canon_mk]
    show Expr.struct ((items.map (·.1)).map d.canon) _ = _
    rw [List.map_map]
    rfl
  refine writtenOperand_called hword (Spelling.cuts_commas fun i hi => (h i hi).spells)
    (Dialect.outcome_render_struct hd hn h surface) rfl fun nested k hnested name hname => ?_
  have htext : name.text = d.structWord surface := congrArg Lexeme.text hname
  have hlist := Reads.csvToEndBracket (F := Grammar.EndsElement)
    (fun i hi => (h i hi).reads nested k hnested false)
    ⟨Grammar.endsOperand_comma 0, by decide, nofun, nofun⟩
    ⟨Grammar.endsOperand_endBracket 0, by decide, nofun, nofun⟩ fun i hi => by
      obtain ⟨l, ms, hls, hl⟩ := (h i hi).first
      exact ⟨l, ms, hls, hl.kind_ne_endBracket⟩
  unfold Grammar.callTail
  rw [hword.key_of_lexeme hname, hd.callSyntaxes, hcallSyntax, hcanon, ← htext]
  refine Reads.note_bind ?_
  exact (hlist.map_pure fun elements => Expr.struct elements (some name.text)).mono
    (Nat.le_refl k) fun _ _ => trivial

/-! ## Casts and quantiles -/

/-- The spelling of an expression and the type that it is cast to. -/
def Spelling.castTo (d : Dialect) (s : Spelling) (target : DataType) (ls : List Lexeme) :
    Spelling :=
  ⟨s.text ++ " AS " ++ d.writeType target, s.lexemes ++ .keyword "AS" :: ls⟩

theorem writtenOperand_cast (hd : n.Makes d) {this : Expr} {s : Spelling} {target : DataType}
    {ls : List Lexeme} (hthis : WrittenOperand n d this s)
    (htarget : Grammar.WrittenType n d target ls) :
    WrittenOperand n d (.cast this target) ((s.castTo d target ls).called "CAST") := by
  have hword : CallWord n "CAST" "CAST" := by
    refine ⟨by decide +kernel, by decide, ?_⟩
    cases n <;> decide
  have hcallSyntax : n.draft.callSyntaxes.find? "CAST" = some .cast := by
    cases n <;> rfl
  have hspells := DialectName.spells_as hthis.spells htarget.spells
  refine writtenOperand_called hword hspells.cuts ?_ rfl fun nested k hnested name hname => ?_
  · rw [hd.render_plain _ rfl]
    refine (Traced.outcome_bind_of_ok hthis.renders _).trans ?_
    show Except.ok ("CAST(" ++ s.text ++ " AS " ++ d.writeType target ++ ")") =
      .ok ("CAST" ++ "(" ++ (s.text ++ " AS " ++ d.writeType target) ++ ")")
    rw [← String.append_assoc, ← String.append_assoc]
    rfl
  · unfold Grammar.callTail
    rw [hword.key_of_lexeme hname, hd.callSyntaxes, hcallSyntax]
    refine Reads.note_bind ?_
    show Reads k (Grammar.castCall d nested) (s.lexemes ++ .keyword "AS" :: ls ++ [.endBracket]) _ _
    rw [List.append_assoc]
    refine (hthis.reads.reads_nested (Nat.zero_le _) hnested).bind (m := k) ?_
      (Nat.le_add_right k _) fun _ _ => Grammar.endsOperand_as 0
    refine Reads.discard_expectKeyword_bind (m := k) ?_ (Nat.le_succ k)
    refine (htarget.reads k).bind (m := k) ?_ (Nat.le_add_right k _) fun _ _ => nofun
    exact Reads.discard_expect_bind (l := .endBracket) (m := k) nofun (Reads.pure k _ _)
      (Nat.le_succ k)

/-- The spelling of the level of a quantile and what it is a quantile of. -/
def Spelling.levelOf (level this : Spelling) : Spelling :=
  ⟨level.text ++ ")(" ++ this.text, level.lexemes ++ .endBracket :: .startBracket :: this.lexemes⟩

theorem Spelling.cuts_levelOf {level this : Spelling}
    (hlevel : n.lexer.Spells level.text level.lexemes)
    (hthis : n.lexer.Spells this.text this.lexemes) :
    n.lexer.Cuts Closes (level.levelOf this).text.toList (level.levelOf this).lexemes := by
  have hend : n.lexer.Cuts DialectName.Anything ")".toList [.endBracket] :=
    n.takes_endBracket.cuts
  have hstart : n.lexer.Cuts DialectName.Anything "(".toList [.startBracket] :=
    n.takes_startBracket.cuts
  have htail := hend.append_toList (hstart.append_toList hthis.cuts fun _ _ => trivial)
    fun _ _ => trivial
  have htext : level.text ++ ")(" ++ this.text = level.text ++ (")" ++ ("(" ++ this.text)) := by
    have hsplit : ")(" = ")" ++ "(" := rfl
    rw [String.append_assoc, hsplit, String.append_assoc]
  show n.lexer.Cuts Closes (level.text ++ ")(" ++ this.text).toList _
  rw [htext]
  refine hlevel.cuts.append_toList htail fun o _ => ?_
  rw [String.toList_append]
  exact Or.inr (Or.inr (Or.inr rfl))

/-- **A quantile comes back**, with its level in brackets of its own. -/
theorem writtenOperand_quantile {d : Dialect} (hd : DialectName.clickhouse.Makes d)
    {this level : Expr} {s t : Spelling} (hthis : WrittenOperand .clickhouse d this s)
    (hlevel : WrittenOperand .clickhouse d level t) :
    WrittenOperand .clickhouse d (.quantile this level) ((t.levelOf s).called "quantile") := by
  have hword : CallWord .clickhouse "quantile" "QUANTILE" :=
    ⟨by decide +kernel, by decide, by decide⟩
  have hcallSyntax : DialectName.clickhouse.draft.callSyntaxes.find? "QUANTILE" =
      some .quantile := rfl
  refine writtenOperand_called hword (Spelling.cuts_levelOf hlevel.spells hthis.spells) ?_ rfl
    fun nested k hnested name hname => ?_
  · rw [hd.outcome_render_own (.quantile this level) (r := .quantile) rfl]
    refine (Traced.outcome_bind_of_ok hlevel.renders _).trans ?_
    refine (Traced.outcome_bind_of_ok hthis.renders _).trans ?_
    show Except.ok ("quantile(" ++ t.text ++ ")(" ++ s.text ++ ")") =
      .ok ("quantile" ++ "(" ++ (t.text ++ ")(" ++ s.text) ++ ")")
    rw [← String.append_assoc, ← String.append_assoc]
    rfl
  · have hone : ∀ {e : Expr} {u : Spelling}, WrittenOperand .clickhouse d e u →
        Reads k (Parser.csvToEndBracket (nested 0)) (u.lexemes ++ [.endBracket]) [d.canon e]
          AnyNext := by
      intro e u he
      have hitems : ∀ i ∈ [(e, u)], WrittenOperand .clickhouse d i.1 i.2 :=
        List.forall_mem_singleton.2 he
      have hread := Grammar.reads_operands hitems hnested
      rw [Spelling.commas_singleton] at hread
      exact hread
    unfold Grammar.callTail
    rw [hword.key_of_lexeme hname, hd.callSyntaxes, hcallSyntax]
    refine Reads.note_bind ?_
    show Reads k (Grammar.quantileCall nested name)
      (t.lexemes ++ .endBracket :: .startBracket :: s.lexemes ++ [.endBracket]) _ _
    have hlexemes : t.lexemes ++ .endBracket :: .startBracket :: s.lexemes ++ [.endBracket] =
        t.lexemes ++ [.endBracket] ++ .startBracket :: (s.lexemes ++ [.endBracket]) := by
      rw [List.append_assoc, List.append_assoc]
      rfl
    rw [hlexemes]
    refine (hone hlevel).bind (m := k) ?_ (Nat.le_add_right k _) fun _ _ => trivial
    refine Reads.consume_bind_true (l := .startBracket) (m := k) nofun ?_ (Nat.le_succ k)
    have hargs := (hone hthis).bind_pure (b := d.canon (.quantile this level)) (f := fun args => do
      return Expr.quantile (← Parser.built name (exactlyOne args)) (d.canon level)) rfl
    exact hargs.mono (Nat.le_refl k) fun _ _ => trivial

end SqlDialects
