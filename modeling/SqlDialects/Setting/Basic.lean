import SqlDialects.Numeral.Layout
import SqlDialects.Numeral.Read
import SqlDialects.Table
import SqlDialects.Text.Escaped
import SqlDialects.Text.Word

/-!
# Settings

A setting is a loosely typed value from a configuration: a small whole number, a
truth value, a number, a text, a map of settings, or nothing.  Looking into a map
comes in two forms.  `get?` tells a key that is absent, or bound to nothing,
apart from one that holds something; `at` goes on with nothing in its place, so
that a path through nested maps can be followed without asking at every step.
-/

namespace SqlDialects

/-- A configuration value. -/
inductive Setting where
  /-- A whole number of thirty-two bits. -/
  | int (value : Int)
  | bool (value : Bool)
  | float (value : Numeral.Double)
  | text (value : String)
  | map (entries : List (String × Setting))
  | none
  deriving Repr

namespace Setting

/-- Whether a whole number has thirty-two bits. -/
def fitsInt (n : Int) : Bool := -2147483648 ≤ n && n ≤ 2147483647

/-- Whether nothing was set. -/
def isNone : Setting → Bool
  | .none => true
  | _ => false

/-- The entries of a map. -/
def entries? : Setting → Option (Table String Setting)
  | .map entries => some entries
  | _ => Option.none

/-- What a map holds under a key, unless that is nothing. -/
def get? (s : Setting) (key : String) : Option Setting :=
  ((s.entries?).bind fun entries => entries.find? key).filter fun found => !found.isNone

/-- What a map holds under a key, or nothing. -/
def atKey (s : Setting) (key : String) : Setting :=
  ((s.entries?).bind fun entries => entries.find? key).getD .none

/-- A truth value, where zero counts as false and every other whole number as true. -/
def asBool? : Setting → Option Bool
  | .bool value => some value
  | .int value => some (value != 0)
  | _ => Option.none

/-- A whole number. -/
def asInt? : Setting → Option Int
  | .int value => some value
  | _ => Option.none

/-- The keys of a map, in the order of their code points. -/
def sortedKeys? (s : Setting) : Option (List String) :=
  s.entries?.map fun entries => entries.keys.mergeSort fun a b => decide (a ≤ b)

/-- The setting that a text stands for: a whole number if it is one of thirty-two bits, else a
number, else a truth value or nothing by name, and otherwise the text itself. -/
def read (s : String) : Setting :=
  match (Numeral.readInteger? s.toList).filter fitsInt with
  | some n => .int n
  | Option.none =>
    match Numeral.readDouble? s.toList with
    | some x => .float x
    | Option.none =>
      if Text.sameIgnoringCase s "true" then .bool true
      else if Text.sameIgnoringCase s "false" then .bool false
      else if Text.sameIgnoringCase s "none" then .none
      else .text s

/-- Numbers in notes have an exponent from ten to the sixteenth on and below one ten-thousandth;
a whole number keeps a point and a zero. -/
def numberLayout : Numeral.Layout where
  leastPositional := -4
  firstScientific := 16
  wholeSuffix := ".0"
  exponentMark := "e"
  infinityText := "inf"
  nanText := "NaN"

mutual

/-- A setting as notes show it. -/
def describe : Setting → String
  | .int value => "Int(" ++ toString value ++ ")"
  | .bool value => "Bool(" ++ (if value then "true" else "false") ++ ")"
  | .float value => "Float(" ++ numberLayout.write value ++ ")"
  | .text value => "String(" ++ Text.quoted value ++ ")"
  | .map entries =>
    "Map(\x7b" ++ String.intercalate ", " (describeEntries entries) ++ "\x7d)"
  | .none => "None"

/-- The entries of a map as notes show them. -/
def describeEntries : List (String × Setting) → List String
  | [] => []
  | (key, value) :: rest => (Text.quoted key ++ ": " ++ describe value) :: describeEntries rest

end

end Setting

end SqlDialects
