import SqlDialects.Numeral.Double

/-!
# The fewest digits that read back

Many decimals round to one double.  The text of a double is a decimal with as
few digits as any of them, and among those the one nearest to the double itself.

The decimals that round to a double fill an interval around it.  For one digit,
then two, and so on up to seventeen, the double has two neighbours on the grid of
decimals with that many digits; if any point of the grid lies in the interval,
one of those two does, so only they are looked at.  All comparisons are between
naturals.
-/

namespace SqlDialects.Numeral

/-- A positive double between the reals that round to it, all over one denominator. -/
structure Neighbourhood where
  /-- The least real that rounds to the double, or the bound that is not reached. -/
  lower : Nat
  /-- The double itself. -/
  middle : Nat
  /-- The greatest real that rounds to the double, or the bound that is not reached. -/
  upper : Nat
  /-- What the three numbers are divided by. -/
  den : Nat
  /-- Whether the two bounds belong to the interval. -/
  closed : Bool

/-- The reals that round to `x`.  Half a unit of the significand either way, except that just
above a power of two the doubles below lie twice as close.  The bounds round to `x` when its
significand is even. -/
def Double.neighbourhood (x : Double) : Neighbourhood :=
  let below := if x.fractionField = 0 ∧ 1 < x.exponentField then 1 else 2
  let quarter := Nat.pow 2 (x.exponent - 2).toNat
  { lower := (4 * x.significand - below) * quarter
    middle := 4 * x.significand * quarter
    upper := (4 * x.significand + 2) * quarter
    den := Nat.pow 2 (2 - x.exponent).toNat
    closed := x.significand % 2 = 0 }

namespace Neighbourhood

/-- Whether `point · 10 ^ grid` rounds to the double. -/
def holds (n : Neighbourhood) (grid : Int) (point : Nat) : Bool :=
  let p := point * Nat.pow 10 grid.toNat * n.den
  let lower := n.lower * Nat.pow 10 (-grid).toNat
  let upper := n.upper * Nat.pow 10 (-grid).toNat
  if n.closed then lower ≤ p && p ≤ upper else lower < p && p < upper

/-- The point of the grid `10 ^ grid` that rounds to the double and is nearest to it; of two that
are equally near, the greater. -/
def nearestOnGrid? (n : Neighbourhood) (grid : Int) : Option Nat :=
  let unit := Nat.pow 10 grid.toNat * n.den
  let middle := n.middle * Nat.pow 10 (-grid).toNat
  let below := middle / unit
  let above := below + 1
  match n.holds grid below, n.holds grid above with
  | true, true => if 2 * middle < (below + above) * unit then some below else some above
  | true, false => some below
  | false, true => some above
  | false, false => none

/-- The least `e` with `num / den < 10 ^ e`, for a ratio of at least one. -/
private def placesAbove (num den : Nat) : Nat := (Nat.toDigits 10 (num / den)).length

/-- How often a ratio below one has to be multiplied by ten to reach one. -/
private def zerosBelow (num den : Nat) : Nat → Nat
  | 0 => 0
  | fuel + 1 => if den ≤ num then 0 else zerosBelow (num * 10) den fuel + 1

/-- The `e` with `10 ^ (e - 1) ≤ x < 10 ^ e`.  No double has more than four hundred zeros behind
its point. -/
def places (n : Neighbourhood) : Int :=
  if n.den ≤ n.middle then placesAbove n.middle n.den
  else 1 - (zerosBelow n.middle n.den 400 : Int)

/-- The first of several numbers of digits for which the double has a decimal.  The upper
neighbour of a run of nines is a power of ten, which has a single digit. -/
private def firstHit (n : Neighbourhood) (places : Int) : List Nat → Nat × Int
  | [] => (n.middle / n.den, 0)
  | count :: rest =>
    match n.nearestOnGrid? (places - count) with
    | some point => if point = Nat.pow 10 count then (1, places) else (point, places - count)
    | none => firstHit n places rest

/-- Digits and power of ten of the shortest decimal.  Seventeen digits always suffice. -/
def shortest (n : Neighbourhood) : Nat × Int :=
  firstHit n n.places ((List.range 17).map (· + 1))

end Neighbourhood

/-- Digits and power of ten of the shortest decimal that reads back as the positive finite `x`. -/
def Double.shortest (x : Double) : Nat × Int := x.neighbourhood.shortest

end SqlDialects.Numeral
