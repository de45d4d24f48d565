import SqlDialects.Numeral.Double

/-!
# Reading numerals

Hexadecimal and binary literals stand for naturals.  Such a numeral is at least
one digit of its radix, behind an optional plus sign; leading zeros change nothing.

A whole number is an optional sign and at least one digit.  A number is an
optional sign and either the name of an infinity or of NaN, or digits with at
most one point among or beside them and an optional exponent.  Nothing else is
taken: no blanks, no grouping, no digits outside ASCII.
-/

namespace SqlDialects.Numeral

/-! ## Naturals in a given radix -/

/-- The value of a digit, letters counting on from nine in either case. -/
def digitValue? (radix : Nat) (c : Char) : Option Nat :=
  let value :=
    if c.isDigit then some (c.toNat - '0'.toNat)
    else if c.isLower then some (c.toNat - 'a'.toNat + 10)
    else if c.isUpper then some (c.toNat - 'A'.toNat + 10)
    else none
  value.filter (· < radix)

/-- The value of the digits that follow a number of the given value. -/
def digitsValue? (radix : Nat) : Nat → List Char → Option Nat
  | value, [] => some value
  | value, c :: cs =>
    (digitValue? radix c).bind fun digit => digitsValue? radix (radix * value + digit) cs

/-- The natural that a numeral stands for. -/
def readNatural? (radix : Nat) (s : List Char) : Option Nat :=
  let digits :=
    match s with
    | '+' :: rest => rest
    | _ => s
  if digits.isEmpty then none else digitsValue? radix 0 digits

/-! ## Decimal numbers -/

/-- The value of a run of decimal digits. -/
def valueOfDigits (digits : List Char) : Nat :=
  digits.foldl (fun value c => 10 * value + (c.toNat - '0'.toNat)) 0

/-- A leading sign, if there is one: whether it is a minus, and what follows it. -/
def splitSign : List Char → Bool × List Char
  | '-' :: s => (true, s)
  | '+' :: s => (false, s)
  | s => (false, s)

/-- A whole number: digits behind an optional sign. -/
def readInteger? (s : List Char) : Option Int :=
  let (negative, digits) := splitSign s
  if digits.isEmpty || !digits.all Char.isDigit then none
  else
    let value : Int := valueOfDigits digits
    some (if negative then -value else value)

/-- The exponent that ends a number, zero if nothing is left. -/
def readExponent? : List Char → Option Int
  | [] => some 0
  | c :: s => if c = 'e' ∨ c = 'E' then readInteger? s else none

/-- A number as a double. -/
def readDouble? (s : List Char) : Option Double :=
  let (negative, s) := splitSign s
  let name := s.map Char.toLower
  if name = "inf".toList ∨ name = "infinity".toList then some (.infinity negative)
  else if name = "nan".toList then some .nan
  else
    let (whole, s) := s.span Char.isDigit
    let (part, s) :=
      match s with
      | '.' :: t => t.span Char.isDigit
      | _ => ([], s)
    if whole.isEmpty && part.isEmpty then none
    else
      (readExponent? s).map fun exponent =>
        .ofDecimal negative (valueOfDigits (whole ++ part)) (exponent - part.length)

end SqlDialects.Numeral
