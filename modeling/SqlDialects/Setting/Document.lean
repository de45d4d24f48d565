import SqlDialects.Document.Read
import SqlDialects.Setting.Basic

/-!
# Settings from documents

Settings are taken from documents.  A setting has no lists, so a document with a
list anywhere in it holds no setting.
-/

namespace SqlDialects

namespace Setting

/-- Why a document holds no setting. -/
def unreadable : String := "data did not match any variant of untagged enum Value"

/-- The setting of a numeral.  One that is written without point and exponent is a whole number if
that has thirty-two bits; the negative zero is not, since whole numbers have only one. -/
def ofNumeral (digits : String) : Option Setting :=
  match (Numeral.readInteger? digits.toList).filter fun n => fitsInt n && digits != "-0" with
  | some n => some (.int n)
  | Option.none => (Numeral.readDouble? digits.toList).map .float

mutual

/-- The setting that a document holds. -/
def ofDocument? : Document → Option Setting
  | .null => some .none
  | .bool value => some (.bool value)
  | .numeral digits => ofNumeral digits
  | .text value => some (.text value)
  | .list _ => Option.none
  | .object members => (ofMembers? members []).map .map

/-- The settings of an object's members, behind those already read.  Of two members with one name
the later counts. -/
def ofMembers? : List (String × Document) → Table String Setting → Option (Table String Setting)
  | [], entries => some entries
  | (key, value) :: rest, entries =>
    (ofDocument? value).bind fun value => ofMembers? rest (entries.insert key value)

end

end Setting

end SqlDialects
