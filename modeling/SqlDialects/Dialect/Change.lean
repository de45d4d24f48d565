import SqlDialects.Dialect.Basic
import SqlDialects.Fault
import SqlDialects.Text.Word
import SqlDialects.Traced

/-!
# Changing a dialect

A dialect is assembled by changes.  Each change leaves an `Attempt`: the dialect
as it then stands, the notes that were made, and the fault that stopped the
change, if one did.  A change that is stopped may have come some of the way, and
what it did until then stays.

Expanding is itself a change.  It checks that the words that may follow a table
are reserved, that calls with a meaning of their own go by plain names in
uppercase which are not reserved, and that there are lexical rules; then it fixes
the lexer.  Every change that bears on one of these checks expands the dialect
again if it was expanded before, so that what is registered is always checked
and the lexer always up to date.
-/

namespace SqlDialects

/-- What a change leaves behind. -/
structure Attempt where
  dialect : Dialect
  notes : List Note := []
  fault? : Option Fault := none

namespace Attempt

/-- A dialect with nothing left to do. -/
def done (d : Dialect) : Attempt := { dialect := d }

/-- A dialect at which a change was stopped. -/
def stopped (d : Dialect) (fault : Fault) : Attempt := { dialect := d, fault? := some fault }

/-- The dialect as the value of a computation, which a change that was stopped has not. -/
def traced (a : Attempt) : Traced Fault Dialect where
  notes := a.notes
  outcome := match a.fault? with
    | some fault => .error fault
    | none => .ok a.dialect

/-- Goes on from where a change ended, unless it was stopped. -/
def andThen (a : Attempt) (next : Dialect → Attempt) : Attempt :=
  match a.fault? with
  | some _ => a
  | none =>
    let b := next a.dialect
    { b with notes := a.notes ++ b.notes }

end Attempt

/-- A step in assembling a dialect. -/
inductive Change where
  | setRules (rules : List LexicalRule)
  /-- More lexical rules, each time before a rule of the given name. -/
  | insertRules (rules : List LexicalRule) (before : String)
  /-- Other lexical rules in the place of those with their names. -/
  | patchRules (rules : List LexicalRule)
  | addWords (label : String) (words : List String)
  | removeWords (label : String) (words : List String)
  | addCallSyntaxes (entries : List (String × CallSyntax))
  | replaceCallSyntax (key : String) (callSyntax : CallSyntax)
  | removeCallSyntax (key : String)
  | addCallBuilders (entries : List (String × CallBuilder))
  | addTableModifiers (entries : List (String × TableModifier))
  | addTypeAliases (entries : List (String × String))
  | addTypeNames (entries : List (String × String))
  | addRenderings (entries : List (Kind × Rendering))
  | removeRendering (kind : Kind)
  | expand
  deriving Repr

namespace Dialect

/-! ## Expanding -/

/-- The first table modifier that is not reserved. -/
def modifierFault? (d : Dialect) : Option Fault :=
  d.tableModifiers.keys.findSome? fun word =>
    if d.reservedWords.contains word then none else some (.modifierNotReserved d.name word)

/-- What is wrong with the key of a call. -/
def keyFault? (d : Dialect) (key : String) : Option Fault :=
  if !Text.isPlainName key || key.toUpper != key then some (.keyNotPlain d.name key)
  else if d.reservedWords.contains key then some (.keyReserved d.name key)
  else none

/-- What is wrong with the keys of calls. -/
def keysFault? (d : Dialect) : Option Fault :=
  (d.callSyntaxes.keys ++ d.callBuilders.keys).findSome? d.keyFault?

/-- Checks the dialect and fixes its lexer. -/
def expand (d : Dialect) : Attempt :=
  match d.modifierFault?.or d.keysFault? with
  | some fault => .stopped d fault
  | none =>
    match d.rules? with
    | none => .stopped d (.noRules d.name)
    | some rules =>
      { dialect := { d with lexer? := some ⟨rules, d.reservedWords⟩ }
        notes :=
          [.expanded d.name d.callSyntaxes.length d.callBuilders.length d.renderings.length] }

/-- Expands the dialect again if it was expanded before. -/
def refresh (d : Dialect) : Attempt := if d.isExpanded then d.expand else .done d

/-! ## Lexical rules and words -/

/-- The rules with others before each rule of the given name. -/
def insertBefore (rules more : List LexicalRule) (before : String) : List LexicalRule :=
  rules.flatMap fun rule => if rule.name = before then more ++ [rule] else [rule]

/-- The rules with others in the place of those with their names.  Of several others with one name
the last counts. -/
def patch (rules others : List LexicalRule) : List LexicalRule :=
  rules.map fun rule => (others.reverse.find? (·.name = rule.name)).getD rule

/-- Puts more lexical rules before those of a name.  The rules are taken out of the dialect first
and put back only if that name was found. -/
def insertRules (d : Dialect) (more : List LexicalRule) (before : String) : Attempt :=
  match d.rules? with
  | none => .stopped d .noRulesToChange
  | some rules =>
    if rules.any (·.name = before) then
      refresh { d with rules? := some (insertBefore rules more before) }
    else
      .stopped { d with rules? := none } (.noRuleNamed before)

/-- Puts other lexical rules in the place of those with their names. -/
def patchRules (d : Dialect) (others : List LexicalRule) : Attempt :=
  match d.rules? with
  | none => .stopped d .noRulesToChange
  | some rules => refresh { d with rules? := some (patch rules others) }

/-- The words with one more, unless it is among them. -/
def addWord (words : List String) (word : String) : List String :=
  if words.contains word then words else words ++ [word]

/-- The dialect with more words under a label.  The lexer is left as it is. -/
def withWords (d : Dialect) (label : String) (words : List String) : Dialect :=
  { d with wordSets := d.wordSets.insert label (words.foldl addWord (d.words label)) }

/-- The dialect with fewer words under a label, if there is such a label. -/
def withoutWords (d : Dialect) (label : String) (words : List String) : Dialect :=
  match d.wordSets.find? label with
  | none => d
  | some present =>
    { d with wordSets := d.wordSets.insert label (present.filter fun w => !words.contains w) }

/-! ## All changes -/

/-- Tries a change. -/
def change (d : Dialect) : Change → Attempt
  | .setRules rules => refresh { d with rules? := some rules }
  | .insertRules rules before => d.insertRules rules before
  | .patchRules rules => d.patchRules rules
  | .addWords label words => (d.withWords label words).refresh
  | .removeWords label words => (d.withoutWords label words).refresh
  | .addCallSyntaxes entries =>
    refresh { d with callSyntaxes := d.callSyntaxes.insertAll entries }
  | .replaceCallSyntax key callSyntax =>
    if d.callSyntaxes.binds key then
      .done { d with callSyntaxes := d.callSyntaxes.insert key callSyntax }
    else
      .stopped d (.noCallSyntax key)
  | .removeCallSyntax key => .done { d with callSyntaxes := d.callSyntaxes.erase key }
  | .addCallBuilders entries =>
    refresh { d with callBuilders := d.callBuilders.insertAll entries }
  | .addTableModifiers entries =>
    refresh { d with tableModifiers := d.tableModifiers.insertAll entries }
  | .addTypeAliases entries => .done { d with typeAliases := d.typeAliases.insertAll entries }
  | .addTypeNames entries => .done { d with typeNames := d.typeNames.insertAll entries }
  | .addRenderings entries => .done { d with renderings := d.renderings.insertAll entries }
  | .removeRendering kind => .done { d with renderings := d.renderings.erase kind }
  | .expand => d.expand

/-- Tries changes one after another, up to the first that is stopped. -/
def changes (d : Dialect) : List Change → Attempt
  | [] => .done d
  | c :: rest => (d.change c).andThen fun d => d.changes rest

/-- The dialect with its style as a configuration says, and notes on what was passed over. -/
def configure (d : Dialect) (config : Setting) : Attempt :=
  let (style, ignored) := d.style.configure config
  { dialect := { d with style := style }, notes := ignored.map .ignoredSetting }

end Dialect

end SqlDialects
