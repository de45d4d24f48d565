import SqlDialects.Proofs.Reading.Reads

/-!
# Reading lists

A repetition reads what its rounds read, one after another, and ends where a round
finds nothing.  Each round may end before what the next one begins with and before
what ends them all; that is one condition, since it is asked of the same `F`.

Items come from anywhere; for each it has to be said which lexemes it is read from
and which value it is read as.
-/

namespace SqlDialects

/-- Where every entry of a list has something that goes with it, the list is one half of a list of
pairs. -/
theorem exists_items {α β : Type} {P : α → β → Prop} {as : List α} (h : ∀ a ∈ as, ∃ b, P a b) :
    ∃ items : List (α × β), items.map (·.1) = as ∧ ∀ i ∈ items, P i.1 i.2 := by
  induction as with
  | nil => exact ⟨[], rfl, fun i hi => absurd hi List.not_mem_nil⟩
  | cons a as ih =>
    obtain ⟨b, hb⟩ := h a List.mem_cons_self
    obtain ⟨items, rfl, hitems⟩ := ih fun a' ha' => h a' (List.mem_cons_of_mem a ha')
    refine ⟨(a, b) :: items, rfl, ?_⟩
    intro i hi
    rcases List.mem_cons.1 hi with rfl | hi
    · exact hb
    · exact hitems i hi

namespace Reads

variable {α ι : Type} {n : Nat} {F G : Lexeme → Prop} {items : List ι}
  {lexemes : ι → List Lexeme} {value : ι → α}

/-- **Rounds, and then nothing.** -/
theorem many {item : Parser (Option α)}
    (hitems : ∀ i ∈ items, Reads n item (lexemes i) (some (value i)) F ∧
      ∃ l ls, lexemes i = l :: ls ∧ F l)
    (hstop : Reads n item [] none G) (hG : ∀ next, G next → F next) :
    Reads n (Parser.many item) (items.flatMap lexemes) (items.map value) G := by
  induction items with
  | nil =>
    intro c next rest hlt hc hnext
    obtain ⟨c', hi, hc'⟩ := hstop c next rest hlt hc hnext
    exact ⟨c', Parser.many_of_none hi, hc'⟩
  | cons i items ih =>
    obtain ⟨hi, l, ls, hls, -⟩ := hitems i List.mem_cons_self
    have hrest := ih fun j hj => hitems j (List.mem_cons_of_mem i hj)
    intro c next rest hlt hc hnext
    have hhead : ∃ next' rest', items.flatMap lexemes ++ next :: rest = next' :: rest' ∧
        F next' := by
      cases hitems' : items with
      | nil => exact ⟨next, rest, rfl, hG next hnext⟩
      | cons j items' =>
        have hj : j ∈ items := hitems' ▸ List.mem_cons_self
        obtain ⟨-, l', ls', hls', hl'⟩ := hitems j (List.mem_cons_of_mem i hj)
        refine ⟨l', ls' ++ items'.flatMap lexemes ++ next :: rest, ?_, hl'⟩
        rw [List.flatMap_cons, hls']
        rfl
    obtain ⟨next', rest', hrest', hnext'⟩ := hhead
    rw [List.flatMap_cons, List.append_assoc, hrest'] at hc
    obtain ⟨c₁, hround, hc₁⟩ := hi c next' rest' hlt hc hnext'
    have hless : c₁.remaining < c.remaining := by
      have hlength := c.length_lexemes
      have hlength₁ := c₁.length_lexemes
      rw [hc, hls, List.length_append, List.length_cons] at hlength
      rw [hc₁] at hlength₁
      omega
    obtain ⟨c₂, hmany, hc₂⟩ :=
      hrest c₁ next rest (Nat.lt_trans hless hlt) (hc₁.trans hrest'.symm) hnext
    exact ⟨c₂, Parser.many_of_some_of_ok hround hless hmany, hc₂⟩

/-- An item behind a comma. -/
theorem commaItem {item : Parser α} {ls : List Lexeme} {a : α} (h : Reads n item ls a F) :
    Reads n (do if ← Parser.consume .comma then return some (← item) else return none)
      (.comma :: ls) (some a) F :=
  consume_bind_true (l := .comma) (by decide) (h.map_pure some) (Nat.le_succ n)

theorem noCommaItem {item : Parser α} (hG : ∀ next, G next → next.kind ≠ .comma) :
    Reads n (do if ← Parser.consume .comma then return some (← item) else return none)
      [] (none : Option α) G :=
  consume_bind_false hG (Reads.pure n none G)

/-- **Items with commas between them**, at least one. -/
theorem csv {item : Parser α} (hne : items ≠ [])
    (hitems : ∀ i ∈ items, Reads n item (lexemes i) (value i) F) (hcomma : F .comma)
    (hG : ∀ next, G next → F next ∧ next.kind ≠ .comma) :
    Reads n (Parser.csv item) (Lexeme.commas (items.map lexemes)) (items.map value) G := by
  obtain ⟨first, later, rfl⟩ := List.exists_cons_of_ne_nil hne
  have hfirst := hitems first List.mem_cons_self
  have hrounds : Reads n (Parser.many do
      if ← Parser.consume .comma then return some (← item) else return none)
      (later.flatMap fun i => .comma :: lexemes i) (later.map value) G := by
    refine many (F := F) ?_ (noCommaItem fun next hnext => (hG next hnext).2)
      fun next hnext => (hG next hnext).1
    intro i hi
    exact ⟨commaItem (hitems i (List.mem_cons_of_mem first hi)), _, _, rfl, hcomma⟩
  have hlexemes : Lexeme.commas ((first :: later).map lexemes) =
      lexemes first ++ later.flatMap fun i => .comma :: lexemes i := by
    rw [List.map_cons, Lexeme.commas, List.flatMap_map]
  rw [hlexemes]
  refine hfirst.bind (hrounds.map_pure (fun rest => value first :: rest))
    (Nat.le_add_right n _) ?_
  intro next hnext
  cases later with
  | nil => exact (hG next hnext).1
  | cons i later => exact hcomma

/-- Items with commas between them, or none, and the closing bracket. -/
theorem csvToEndBracket {item : Parser α}
    (hitems : ∀ i ∈ items, Reads n item (lexemes i) (value i) F) (hcomma : F .comma)
    (hend : F .endBracket) (hstart : ∀ i ∈ items, ∃ l ls, lexemes i = l :: ls ∧
      l.kind ≠ .endBracket) :
    Reads n (Parser.csvToEndBracket item)
      (Lexeme.commas (items.map lexemes) ++ [.endBracket]) (items.map value) AnyNext := by
  unfold Parser.csvToEndBracket
  cases items with
  | nil =>
    exact consume_bind_true (l := .endBracket) (by decide) (Reads.pure n [] AnyNext)
      (Nat.le_succ n)
  | cons i items =>
    obtain ⟨l, ls, hls, hl⟩ := hstart i List.mem_cons_self
    refine consume_bind_false ?_ ?_
    · intro next _
      rw [List.map_cons, Lexeme.commas, hls]
      exact hl
    · have hlist := csv (G := fun l => l = .endBracket) (List.cons_ne_nil i items) hitems hcomma (by
        rintro next rfl
        exact ⟨hend, by decide⟩)
      refine hlist.bind ?_ (Nat.le_add_right n _) fun next _ => rfl
      exact consume_bind_true (l := .endBracket) (by decide) (Reads.pure n _ AnyNext)
        (Nat.le_succ n)

end Reads
end SqlDialects
