/-!
# Quoted literals and nested comments

Two forms run up to a mark that closes them, and are unterminated where it is
missing: there is no shorter one.

A quoted literal runs from its opening quote to its closing one.  Inside it a
closing quote is written twice, and where the dialect has an escape character
that one protects whatever comes next, a quote or another escape included.

A block comment runs from `/*` to the `*/` that closes it, and comments inside it
count.  The two marks are read from left to right without overlap, so that the
star of an opening mark closes nothing.  A comment that is still open where the
text ends, or where a NUL stands, is unterminated.
-/

namespace SqlDialects.Lexical

/-! ## Quoted literals -/

/-- The part of a text up to the quote that closes it, and the rest after that quote; nothing if
no quote closes it. -/
def splitQuotedBody? (closing : Char) (escape : Option Char) :
    List Char → Option (List Char × List Char)
  | [] => none
  | [c] => if some c ≠ escape ∧ c = closing then some ([c], []) else none
  | c :: d :: s =>
    if some c = escape then
      (splitQuotedBody? closing escape s).map fun (t, rest) => (c :: d :: t, rest)
    else if c = closing then
      if d = closing then
        (splitQuotedBody? closing escape s).map fun (t, rest) => (c :: d :: t, rest)
      else
        some ([c], d :: s)
    else
      (splitQuotedBody? closing escape (d :: s)).map fun (t, rest) => (c :: t, rest)

theorem append_of_splitQuotedBody? {closing : Char} {escape : Option Char} {s t rest : List Char}
    (h : splitQuotedBody? closing escape s = some (t, rest)) : t ++ rest = s := by
  fun_induction splitQuotedBody? closing escape s generalizing t rest with
  | case1 => cases h
  | case2 | case6 =>
    obtain ⟨rfl, rfl⟩ := Prod.mk.inj (Option.some.inj h)
    rfl
  | case3 => cases h
  | case4 _ _ _ _ ih | case5 _ _ ih | case7 _ _ _ _ _ ih =>
    obtain ⟨⟨u, r⟩, hu, heq⟩ := Option.map_eq_some_iff.1 h
    obtain ⟨rfl, rfl⟩ := Prod.mk.inj heq
    simp [ih hu]

/-! ## Nested comments -/

/-- The part of a text up to the mark that closes `depth` comments and the one around them, and
the rest after that mark; nothing if they do not all close. -/
def splitOpenComment? (depth : Nat) : List Char → Option (List Char × List Char)
  | [] => none
  | '\x00' :: _ => none
  | '/' :: '*' :: s =>
    (splitOpenComment? (depth + 1) s).map fun (t, rest) => ('/' :: '*' :: t, rest)
  | '*' :: '/' :: s =>
    match depth with
    | 0 => some (['*', '/'], s)
    | depth + 1 => (splitOpenComment? depth s).map fun (t, rest) => ('*' :: '/' :: t, rest)
  | c :: s => (splitOpenComment? depth s).map fun (t, rest) => (c :: t, rest)

theorem append_of_splitOpenComment? {depth : Nat} {s t rest : List Char}
    (h : splitOpenComment? depth s = some (t, rest)) : t ++ rest = s := by
  fun_induction splitOpenComment? depth s generalizing t rest with
  | case1 => cases h
  | case2 => cases h
  | case4 =>
    obtain ⟨rfl, rfl⟩ := Prod.mk.inj (Option.some.inj h)
    rfl
  | case3 _ _ ih | case5 _ _ ih | case6 _ _ _ _ _ _ ih =>
    obtain ⟨⟨u, r⟩, hu, heq⟩ := Option.map_eq_some_iff.1 h
    obtain ⟨rfl, rfl⟩ := Prod.mk.inj heq
    simp [ih hu]

end SqlDialects.Lexical
