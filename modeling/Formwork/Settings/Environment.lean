import Formwork.Settings.Basic
import Formwork.Text.Case

/-!
Settings from environment variables. A variable that is empty counts as missing, save the one for
the output directory, and numbers are read by the liberal rule.
-/

namespace Formwork

abbrev Environment := List (String × String)

inductive SettingsError
  | invalid (faults : List Schema.Fault)
  | integer (fault : Number.Reading.IntegerFault)
  deriving DecidableEq, Repr

def SettingsError.message : SettingsError → String
  | .invalid faults => Schema.faultsText faults
  | .integer fault => fault.message

namespace Environment

/-- The words that switch a setting on. -/
def onWords : List String := ["1", "true", "yes", "on"]

def flag (value : String) : Bool := onWords.contains (Text.lower (Text.strip value))

def integer (value : String) : Except SettingsError Int :=
  (Number.Reading.boundedInt value.toList).mapError .integer

def filled? (env : Environment) (name : String) : Option String :=
  (env.lookup name).filter fun value => value ≠ ""

def memberOf (env : Environment) (variableName name : String)
    (read : String → Except SettingsError Value) :
    Except SettingsError (List (String × Value)) :=
  match env.filled? variableName with
  | none => .ok []
  | some value => do return [(name, ← read value)]

def flagValue (value : String) : Except SettingsError Value := .ok (.bool (flag value))

def integerValue (value : String) : Except SettingsError Value := do
  return .int (← integer value)

def members (env : Environment) : Except SettingsError (List (String × Value)) := do
  let output := (env.lookup "NGS_OUTPUT_DIR").getD "./output"
  let bootstrap ← env.memberOf "NGS_USE_BOOTSTRAP" "use_bootstrap" flagValue
  let columns ← env.memberOf "NGS_COLUMN_LAYOUT" "column_layout" integerValue
  let strict ← env.memberOf "NGS_STRICT" "strict" flagValue
  let skeleton ← env.memberOf "NGS_SKELETON" "skeleton" fun value => .ok (.str value)
  let install ← env.memberOf "NGS_INSTALL_DEPENDENCIES" "install_dependencies" flagValue
  let timeout ← env.memberOf "NGS_COMMAND_TIMEOUT" "command_timeout" integerValue
  return ("output_dir", .str output) :: bootstrap ++ columns ++ strict ++ skeleton ++ install ++
    timeout

def settings (env : Environment) : Except SettingsError Settings := do
  let members ← env.members
  (Settings.readMembers (Document.ofMembers members)).toExcept.mapError .invalid

end Environment

end Formwork
