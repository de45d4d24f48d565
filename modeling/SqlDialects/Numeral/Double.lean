/-!
# Doubles, by their bits

A double is a sign, eleven bits of exponent and fifty-two bits of fraction.  A
finite one stands for `significand · 2 ^ exponent`, and everything done with it
here is exact arithmetic on those two numbers: reading a decimal rounds a ratio
of naturals to the nearest double, ties to the even significand, without ever
passing through another floating-point number.

## Why the rounding is one formula

Let `2 ^ scale` be the distance between neighbouring doubles where the ratio
lies.  The rounded multiple of it is a significand between `2 ^ 52` and `2 ^ 53`,
or a smaller one in the lowest binade.  In the bit layout the exponent field of a
normal double is one more than its binade's number, and its significand carries
the hidden bit `2 ^ 52`; the two cancel, so "binade number times `2 ^ 52` plus
significand" is right for normal and subnormal doubles alike, and a significand
that rounds up to `2 ^ 53` moves to the next binade by itself.
-/

namespace SqlDialects.Numeral

/-- A binary floating-point number of sixty-four bits. -/
structure Double where
  /-- Sign, exponent and fraction, from the highest bit down. -/
  bits : UInt64
  deriving DecidableEq, Repr

namespace Double

/-- The eleven bits of the exponent. -/
def exponentField (x : Double) : Nat := x.bits.toNat / Nat.pow 2 52 % Nat.pow 2 11

/-- The fifty-two bits of the fraction. -/
def fractionField (x : Double) : Nat := x.bits.toNat % Nat.pow 2 52

/-- Whether the sign bit is set. -/
def isNegative (x : Double) : Bool := Nat.pow 2 63 ≤ x.bits.toNat

/-- Whether the bits stand for no number at all. -/
def isNaN (x : Double) : Bool := x.exponentField == 2047 && x.fractionField != 0

/-- Whether the bits stand for one of the two infinities. -/
def isInfinite (x : Double) : Bool := x.exponentField == 2047 && x.fractionField == 0

/-- A finite double is its significand times two to its exponent. -/
def significand (x : Double) : Nat :=
  if x.exponentField = 0 then x.fractionField else Nat.pow 2 52 + x.fractionField

/-- The power of two that the significand counts. -/
def exponent (x : Double) : Int := max 1 x.exponentField - 1075

/-- The double with the given sign and the given remaining bits. -/
def ofMagnitude (negative : Bool) (magnitude : Nat) : Double :=
  ⟨.ofNat (if negative then Nat.pow 2 63 + magnitude else magnitude)⟩

/-- The bits of an infinity, apart from its sign. -/
def infinityMagnitude : Nat := 2047 * Nat.pow 2 52

/-- The infinity of the given sign. -/
def infinity (negative : Bool) : Double := ofMagnitude negative infinityMagnitude

/-- A NaN. -/
def nan : Double := ofMagnitude false (infinityMagnitude + Nat.pow 2 51)

end Double

/-- The natural nearest to a ratio; a half goes to the even neighbour. -/
def roundHalfEven (num den : Nat) : Nat :=
  let quotient := num / den
  let twice := 2 * (num % den)
  if twice < den then quotient
  else if den < twice then quotient + 1
  else quotient + quotient % 2

/-- The greatest `e` with `2 ^ e ≤ num / den`. -/
def floorLogTwo (num den : Nat) : Int :=
  let guess : Int := num.log2 - den.log2
  if den * Nat.pow 2 guess.toNat ≤ num * Nat.pow 2 (-guess).toNat then guess else guess - 1

/-- The bits, apart from the sign, of the double nearest to a ratio. -/
def nearestMagnitude (num den : Nat) : Nat :=
  if num = 0 then 0
  else
    let scale := max (floorLogTwo num den - 52) (-1074)
    let rounded := roundHalfEven (num * Nat.pow 2 (-scale).toNat) (den * Nat.pow 2 scale.toNat)
    min ((scale + 1074).toNat * Nat.pow 2 52 + rounded) Double.infinityMagnitude

/-- The double nearest to `digits · 10 ^ exponent`.  Beyond the largest double that is an
infinity and below half the least one it is zero; an exponent far outside either bound is settled
by the number of digits, so no power of ten larger than the format's own is ever formed. -/
def Double.ofDecimal (negative : Bool) (digits : Nat) (exponent : Int) : Double :=
  let places : Int := (Nat.toDigits 10 digits).length + exponent
  if digits = 0 ∨ places < -330 then ofMagnitude negative 0
  else if 310 < places then infinity negative
  else
    ofMagnitude negative
      (nearestMagnitude (digits * Nat.pow 10 exponent.toNat) (Nat.pow 10 (-exponent).toNat))

end SqlDialects.Numeral
