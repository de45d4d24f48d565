import SqlDialects.Setting.Basic

/-!
# Styles

How a dialect writes what its grammar leaves open: whether every name is quoted,
which quotes names stand in, and how the names of plain calls are cased.  A
configuration may change the first and the last; a value that says nothing usable
is passed over, and the keys of such values are reported.
-/

namespace SqlDialects

/-- How the name of a plain call is cased. -/
inductive CallCase where
  | upper
  | lower
  | asWritten
  deriving DecidableEq, Repr

namespace CallCase

/-- The name of a choice. -/
def name : CallCase → String
  | upper => "Upper"
  | lower => "Lower"
  | asWritten => "None"

/-- The choice that a setting stands for. -/
def ofSetting? : Setting → Option CallCase
  | .text value =>
    if Text.sameIgnoringCase value "upper" then some upper
    else if Text.sameIgnoringCase value "lower" then some lower
    else if Text.sameIgnoringCase value "none" then some asWritten
    else none
  | .bool false => some asWritten
  | _ => none

/-- A name, cased.  Only the letters of ASCII have two cases. -/
def apply : CallCase → String → String
  | upper, name => name.toUpper
  | lower, name => name.toLower
  | asWritten, name => name

end CallCase

/-- How a dialect writes what its grammar leaves open. -/
structure Style where
  /-- Whether names stand in quotes even where they need none. -/
  quoteAll : Bool := false
  callCase : CallCase := .upper
  /-- The quotes that a name stands in. -/
  openingQuote : Char := '"'
  closingQuote : Char := '"'
  deriving DecidableEq, Repr

/-- A setting that was passed over, with the key that it stood under. -/
structure IgnoredSetting where
  key : String
  value : Setting

namespace Style

/-- The style with the quoting of names as a configuration says. -/
def configureQuoting (style : Style) (config : Setting) : Style × List IgnoredSetting :=
  match config.get? "identify" with
  | none => (style, [])
  | some value =>
    match value.asBool? with
    | some quoteAll => ({ style with quoteAll := quoteAll }, [])
    | none => (style, [⟨"identify", value⟩])

/-- The style with the case of calls as a configuration says. -/
def configureCallCase (style : Style) (config : Setting) : Style × List IgnoredSetting :=
  match config.get? "normalize_functions" with
  | none => (style, [])
  | some value =>
    match CallCase.ofSetting? value with
    | some callCase => ({ style with callCase := callCase }, [])
    | none => (style, [⟨"normalize_functions", value⟩])

/-- The style as a configuration says, and the settings that were passed over. -/
def configure (style : Style) (config : Setting) : Style × List IgnoredSetting :=
  let (style, ignored) := style.configureQuoting config
  let (style, alsoIgnored) := style.configureCallCase config
  (style, ignored ++ alsoIgnored)

/-- A style as a dialect is shown. -/
def describe (style : Style) : String :=
  "GeneratorConfig \x7b identify: " ++ (if style.quoteAll then "true" else "false") ++
    ", normalize_functions: " ++ style.callCase.name ++ ", identifier_quote: (" ++
    Text.quotedChar style.openingQuote ++ ", " ++ Text.quotedChar style.closingQuote ++ ") \x7d"

end Style

end SqlDialects
