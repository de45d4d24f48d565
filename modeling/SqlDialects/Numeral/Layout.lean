import SqlDialects.Numeral.Shortest

/-!
# Laying out a double

Which digits a double is written with is settled by `Double.shortest`.  How they
are set out, with a point or with an exponent, is a choice of the text they stand
in; a `Layout` holds that choice.
-/

namespace SqlDialects.Numeral

/-- How the digits of a double are set out. -/
structure Layout where
  /-- The least power of ten that is written without an exponent. -/
  leastPositional : Int
  /-- The first power of ten that is written with an exponent. -/
  firstScientific : Int
  /-- What follows the digits of a whole number that is written without an exponent. -/
  wholeSuffix : String
  /-- What stands between the digits and the exponent. -/
  exponentMark : String
  /-- How an infinity is written, apart from its sign. -/
  infinityText : String
  /-- How a NaN is written. -/
  nanText : String

namespace Layout

/-- So many zeros. -/
private def zeros (n : Nat) : String := .ofList (List.replicate n '0')

/-- Digits with a point after the first `point` of them, or with zeros up to the point. -/
def positional (layout : Layout) (digits : List Char) (point : Int) : String :=
  let count : Int := digits.length
  if point ≤ 0 then
    "0." ++ zeros (-point).toNat ++ String.ofList digits
  else if count ≤ point then
    String.ofList digits ++ zeros (point - count).toNat ++ layout.wholeSuffix
  else
    String.ofList (digits.take point.toNat) ++ "." ++ String.ofList (digits.drop point.toNat)

/-- Digits with a point after the first, and the power of ten of that first digit. -/
def scientific (layout : Layout) (digits : List Char) (point : Int) : String :=
  let rest := digits.drop 1
  String.ofList (digits.take 1) ++ (if rest.isEmpty then "" else "." ++ String.ofList rest) ++
    layout.exponentMark ++ toString (point - 1)

/-- The text of a double. -/
def write (layout : Layout) (x : Double) : String :=
  if x.isNaN then layout.nanText
  else
    let sign := if x.isNegative then "-" else ""
    if x.isInfinite then sign ++ layout.infinityText
    else if x.significand = 0 then sign ++ "0" ++ layout.wholeSuffix
    else
      let (point, grid) := x.shortest
      let digits := Nat.toDigits 10 point
      let place : Int := digits.length + grid
      sign ++
        if layout.leastPositional < place ∧ place ≤ layout.firstScientific then
          layout.positional digits place
        else
          layout.scientific digits place

end Layout

end SqlDialects.Numeral
