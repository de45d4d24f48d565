import SqlDialects.Proofs.Dialect.Assembled
import SqlDialects.Proofs.Lexing.Cut
import SqlDialects.Proofs.Lexing.Opening
import SqlDialects.Quoting

/-!
# What stands between quotes

A string and a quoted name are cut whole, whatever they hold: no text inside the
quotes ends them early, and their closing quote ends them, unless another quote
follows.

## Units

The scanner and the writer meet in the notion of a unit: a plain character, a
quote written twice, or whatever stands behind an escape.  The writer puts out one
unit for each character (`isUnit_encodeChar`, `isUnit_double`), and the scanner
goes on after each unit as it began (`splitQuotedBody?_unit`).  So it makes no
difference which of the two ways of writing a quote is in use, and names are the
case without an escape.
-/

namespace SqlDialects

/-- The escape characters that strings are written with: none, or the backslash. -/
def KnownEscape (escape : Option Char) : Prop := escape = none ∨ escape = some '\\'

namespace Lexical

variable {closing : Char} {escape : Option Char}

/-- What a scanner for a quoted literal goes past in one step. -/
inductive IsUnit (closing : Char) (escape : Option Char) : List Char → Prop where
  | plain {c : Char} (hescape : some c ≠ escape) (hclosing : c ≠ closing) :
    IsUnit closing escape [c]
  | doubled : IsUnit closing escape [closing, closing]
  | escaped {e : Char} (d : Char) (hescape : some e = escape) : IsUnit closing escape [e, d]

/-- The scanner goes past a unit, and then on as it began. -/
theorem splitQuotedBody?_unit (hquote : some closing ≠ escape) {u s : List Char}
    (hu : IsUnit closing escape u) (hs : s ≠ []) :
    splitQuotedBody? closing escape (u ++ s) =
      (splitQuotedBody? closing escape s).map fun (t, rest) => (u ++ t, rest) := by
  cases hu with
  | @plain c hescape hclosing =>
    obtain ⟨d, s, rfl⟩ := List.exists_cons_of_ne_nil hs
    show splitQuotedBody? closing escape (c :: d :: s) = _
    rw [splitQuotedBody?, if_neg hescape, if_neg hclosing]
    rfl
  | doubled =>
    show splitQuotedBody? closing escape (closing :: closing :: s) = _
    rw [splitQuotedBody?, if_neg hquote, if_pos rfl, if_pos rfl]
    rfl
  | @escaped e d hescape =>
    show splitQuotedBody? closing escape (e :: d :: s) = _
    rw [splitQuotedBody?, if_pos hescape]
    rfl

/-- The scanner ends at a quote that no other follows. -/
theorem splitQuotedBody?_closing (hquote : some closing ≠ escape) {rest : List Char}
    (hrest : rest.head? ≠ some closing) :
    splitQuotedBody? closing escape (closing :: rest) = some ([closing], rest) := by
  cases rest with
  | nil => rw [splitQuotedBody?, if_pos ⟨hquote, rfl⟩]
  | cons d rest =>
    have hd : d ≠ closing := fun h => hrest (congrArg some h)
    rw [splitQuotedBody?, if_neg hquote, if_pos rfl, if_neg hd]

/-- **Units and a closing quote are taken whole**, if no other quote follows. -/
theorem splitQuotedBody?_units (hquote : some closing ≠ escape) (us : List (List Char))
    (hus : ∀ u ∈ us, IsUnit closing escape u) {rest : List Char}
    (hrest : rest.head? ≠ some closing) :
    splitQuotedBody? closing escape (us.flatten ++ [closing] ++ rest) =
      some (us.flatten ++ [closing], rest) := by
  induction us with
  | nil => exact splitQuotedBody?_closing hquote hrest
  | cons u us ih =>
    have hrest' := ih fun v hv => hus v (List.mem_cons_of_mem u hv)
    have hne : us.flatten ++ [closing] ++ rest ≠ [] := by simp
    rw [List.flatten_cons, List.append_assoc, List.append_assoc, ← List.append_assoc us.flatten,
      splitQuotedBody?_unit hquote (hus u List.mem_cons_self) hne, hrest', List.append_assoc]
    rfl

/-- Units and a closing quote, before a rest that does not begin with another. -/
def IsBody (closing : Char) (escape : Option Char) (t rest : List Char) : Prop :=
  ∃ us : List (List Char), (∀ u ∈ us, IsUnit closing escape u) ∧ t = us.flatten ++ [closing] ∧
    rest.head? ≠ some closing

theorem IsBody.closes {rest : List Char} (hrest : rest.head? ≠ some closing) :
    IsBody closing escape [closing] rest :=
  ⟨[], nofun, rfl, hrest⟩

theorem IsBody.cons {u t rest : List Char} (hu : IsUnit closing escape u)
    (h : IsBody closing escape t rest) : IsBody closing escape (u ++ t) rest := by
  obtain ⟨us, hus, rfl, hrest⟩ := h
  exact ⟨u :: us, List.forall_mem_cons.2 ⟨hu, hus⟩, (List.append_assoc ..).symm, hrest⟩

/-- **Whatever the scanner takes is units and a closing quote**, and no other quote follows. -/
theorem isBody_of_splitQuotedBody? {s t rest : List Char}
    (h : splitQuotedBody? closing escape s = some (t, rest)) : IsBody closing escape t rest := by
  fun_induction splitQuotedBody? closing escape s generalizing t rest with
  | case1 => cases h
  | case2 c hclose =>
    obtain ⟨rfl, rfl⟩ := Prod.mk.inj (Option.some.inj h)
    rw [hclose.2]
    exact .closes (Option.some_ne_none closing).symm
  | case3 => cases h
  | case4 c d s hescape ih =>
    obtain ⟨⟨u, r⟩, hu, heq⟩ := Option.map_eq_some_iff.1 h
    obtain ⟨rfl, rfl⟩ := Prod.mk.inj heq
    exact (ih hu).cons (.escaped d hescape)
  | case5 s hescape ih =>
    obtain ⟨⟨u, r⟩, hu, heq⟩ := Option.map_eq_some_iff.1 h
    obtain ⟨rfl, rfl⟩ := Prod.mk.inj heq
    exact (ih hu).cons .doubled
  | case6 d s hd hescape =>
    obtain ⟨rfl, rfl⟩ := Prod.mk.inj (Option.some.inj h)
    exact .closes fun hhead => hd (Option.some.inj hhead)
  | case7 c d s hescape hclosing ih =>
    obtain ⟨⟨u, r⟩, hu, heq⟩ := Option.map_eq_some_iff.1 h
    obtain ⟨rfl, rfl⟩ := Prod.mk.inj heq
    exact (ih hu).cons (.plain hescape hclosing)

theorem reactQuoted_of_splitQuotedBody? (opening : Char) {s text rest : List Char}
    (h : splitQuotedBody? closing escape s = some (text, rest)) :
    reactQuoted opening closing escape (opening :: s) =
      some (.matched (opening :: text) rest) := by
  rw [reactQuoted, if_pos rfl, h]

/-- A quoted literal is its opening quote, units, and its closing quote. -/
theorem exists_body_of_reactQuoted {opening : Char} {s text rest : List Char}
    (h : reactQuoted opening closing escape s = some (.matched text rest)) :
    ∃ t, text = opening :: t ∧ IsBody closing escape t rest := by
  unfold reactQuoted at h
  split at h
  · cases h
  · split at h
    · rename_i hopening
      split at h
      · cases h
      · rename_i t r hsplit
        cases h
        exact ⟨t, congrArg (· :: t) hopening, isBody_of_splitQuotedBody? hsplit⟩
    · cases h

end Lexical

/-! ## What the writer puts out -/

namespace Quoting

open Lexical

theorem encodeChar_of_escaped? {e c d : Char} (h : escaped? e c = some d) :
    encodeChar (some e) c = [e, d] := by
  simp only [encodeChar, h]

theorem encodeChar_of_not_escaped? {e c : Char} (h : escaped? e c = none) :
    encodeChar (some e) c = [c] := by
  simp only [encodeChar, h]

/-- A quote and a backslash are always escaped by a backslash. -/
theorem ne_of_not_escaped? {c : Char} (h : escaped? '\\' c = none) :
    some c ≠ some '\\' ∧ c ≠ '\'' := by
  constructor
  · rintro hc
    cases hc
    cases h
  · rintro rfl
    cases h

theorem isUnit_encodeChar {escape : Option Char} (hescape : KnownEscape escape) (c : Char) :
    IsUnit '\'' escape (encodeChar escape c) := by
  rcases hescape with rfl | rfl
  · show IsUnit '\'' none (if c = '\'' then ['\'', '\''] else [c])
    by_cases hc : c = '\''
    · rw [if_pos hc]
      exact .doubled
    · rw [if_neg hc]
      exact .plain (fun h => by cases h) hc
  · cases h : escaped? '\\' c with
    | some d =>
      rw [encodeChar_of_escaped? h]
      exact .escaped d rfl
    | none =>
      rw [encodeChar_of_not_escaped? h]
      exact .plain (ne_of_not_escaped? h).1 (ne_of_not_escaped? h).2

theorem isUnit_double (closing c : Char) :
    IsUnit closing none (if c = closing then [c, c] else [c]) := by
  by_cases hc : c = closing
  · rw [if_pos hc, hc]
    exact .doubled
  · rw [if_neg hc]
    exact .plain (fun h => by cases h) hc

/-! ## What was written is read -/

theorem decode_plain {escape : Option Char} {c : Char} (hescape : some c ≠ escape)
    (hc : c ≠ '\'') (s : List Char) : decode escape (c :: s) = c :: decode escape s := by
  cases s with
  | nil =>
    show (if some c = escape then [] else [c]) = [c]
    rw [if_neg hescape]
  | cons d s => rw [decode, if_neg hescape, if_neg hc]

/-- An escaped character is the one that its escape stands for. -/
theorem unescaped_of_escaped? {c d : Char} (h : escaped? '\\' c = some d) : unescaped d = c := by
  unfold escaped? at h
  split at h
  case h_6 =>
    split at h
    · rename_i hc
      cases h
      rw [hc]
      rfl
    · cases h
  all_goals
    cases h
    rfl

/-- **Decoding undoes encoding**, whatever the text. -/
theorem decode_encode {escape : Option Char} (hescape : KnownEscape escape) (v : List Char) :
    decode escape (encode escape v) = v := by
  induction v with
  | nil => rfl
  | cons c v ih =>
    rw [encode, List.flatMap_cons, ← encode]
    rcases hescape with rfl | rfl
    · show decode none ((if c = '\'' then ['\'', '\''] else [c]) ++ encode none v) = _
      by_cases hc : c = '\''
      · rw [if_pos hc, hc]
        show '\'' :: decode none (encode none v) = _
        rw [ih]
      · rw [if_neg hc]
        show decode none (c :: encode none v) = _
        rw [decode_plain (fun h => by cases h) hc, ih]
    · cases h : escaped? '\\' c with
      | some d =>
        rw [encodeChar_of_escaped? h]
        show unescaped d :: decode (some '\\') (encode (some '\\') v) = _
        rw [unescaped_of_escaped? h, ih]
      | none =>
        rw [encodeChar_of_not_escaped? h]
        show decode (some '\\') (c :: encode (some '\\') v) = _
        rw [decode_plain (ne_of_not_escaped? h).1 (ne_of_not_escaped? h).2, ih]

theorem readString?_writeString {escape : Option Char} (hescape : KnownEscape escape)
    (value : String) : readString? escape (writeString escape value) = some value := by
  have hquote : '\''.utf8Size = 1 := rfl
  have hslice := Text.slice?_between hquote hquote (encode escape value.toList)
  have htoList : (writeString escape value).toList =
      '\'' :: (encode escape value.toList ++ ['\'']) := String.toList_ofList
  unfold readString?
  simp only [htoList, hslice, Option.map_some, decode_encode hescape, String.ofList_toList]

end Quoting

/-! ## Strings and names in every dialect -/

namespace DialectName

variable (n : DialectName)

theorem stringEscape?_lexer : KnownEscape n.lexer.stringEscape? := by
  cases n
  · exact Or.inl rfl
  · exact Or.inr rfl
  · exact Or.inr rfl

/-- A rule for literals that stand between equal quotes.  No rule before it opens with its quote, and
the quote is no escape. -/
structure QuotesWith (r : LexicalRule) (quote : Char) (escape : Option Char) : Prop where
  pattern : r.pattern = .quoted quote quote escape
  kind : r.kind ≠ .word
  find : n.rules.find? (fun r' => r'.name == r.name) = some r
  opens : ∀ r' ∈ Lexer.rulesBefore n.rules r.name, r'.pattern.opens quote = false
  quote_ne : some quote ≠ escape

variable {n} in
/-- **A quoted literal is taken whole**, if no quote follows. -/
theorem QuotesWith.takes {r : LexicalRule} {quote : Char} {escape : Option Char}
    (h : n.QuotesWith r quote escape) {us : List (List Char)}
    (hus : ∀ u ∈ us, Lexical.IsUnit quote escape u) :
    n.lexer.Takes (fun o => o ≠ some quote) (quote :: (us.flatten ++ [quote])) r.kind := by
  intro rest hrest
  have hbody := Lexical.splitQuotedBody?_units h.quote_ne us hus hrest
  refine ⟨r, Lexer.firstReaction?_of_passed h.find ?_ ?_, Lexer.kindOf_of_ne_word h.kind⟩
  · exact fun r' hr' => LexicalRule.react_of_opens_eq_false (h.opens r' hr') _
  · rw [LexicalRule.react, h.pattern]
    exact Lexical.reactQuoted_of_splitQuotedBody? quote hbody

/-- The rule for strings. -/
def stringRule : LexicalRule :=
  ⟨"single_quote", .stringLiteral, .quoted '\'' '\'' n.lexer.stringEscape?⟩

theorem quotesWith_stringRule : n.QuotesWith n.stringRule '\'' n.lexer.stringEscape? := by
  cases n <;> exact ⟨rfl, by decide, by decide, by decide, by decide⟩

/-- A string is taken whole, if no quote follows. -/
theorem takes_string (value : String) :
    n.lexer.Takes (fun o => o ≠ some '\'')
      (Quoting.writeString n.lexer.stringEscape? value).toList .stringLiteral := by
  rw [Quoting.writeString, String.toList_ofList, Quoting.encode, List.flatMap_def]
  refine n.quotesWith_stringRule.takes fun u hu => ?_
  obtain ⟨c, -, rfl⟩ := List.mem_map.1 hu
  exact Quoting.isUnit_encodeChar n.stringEscape?_lexer c

/-- The quote that names are written in. -/
def nameQuote (n : DialectName) : Char := n.draft.style.closingQuote

/-- The rule for names in the quotes that the dialect writes. -/
def nameRule (n : DialectName) : LexicalRule :=
  ⟨if n = bigquery then "back_quote" else "double_quote", .quotedIdentifier,
    .quoted n.nameQuote n.nameQuote none⟩

theorem quotesWith_nameRule : n.QuotesWith n.nameRule n.nameQuote none := by
  cases n <;> exact ⟨rfl, by decide, by decide, by decide, by decide⟩

/-- A quoted name is taken whole, if no quote follows. -/
theorem takes_name (name : String) :
    n.lexer.Takes (fun o => o ≠ some n.nameQuote)
      (Quoting.writeName n.nameQuote n.nameQuote name).toList .quotedIdentifier := by
  rw [Quoting.writeName, String.toList_ofList, Quoting.double, List.flatMap_def]
  refine n.quotesWith_nameRule.takes fun u hu => ?_
  obtain ⟨c, -, rfl⟩ := List.mem_map.1 hu
  exact Quoting.isUnit_double n.nameQuote c

end DialectName

end SqlDialects
