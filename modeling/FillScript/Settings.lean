import FillScript.Files.Path
import FillScript.Text.Blank

/-!
# Settings

What the environment says about a run: the script to fill when none is named, which events are
shown, and whether anything is written.
-/

namespace FillScript

/-- Values of variables by name; the first entry of a name counts. -/
abbrev Environment := List (String × String)

namespace Environment

/-- The value of a variable. -/
def value? (env : Environment) (name : String) : Option String :=
  (env.find? (·.1 == name)).map (·.2)

end Environment

/-- How scripts are run. -/
structure Settings where
  defaultInput : Path
  logFilter : String
  dryRun : Bool
deriving DecidableEq

/-- A value that is neither yes nor no. -/
structure FlagError where
  value : String
deriving DecidableEq

namespace FlagError

/-- What is said about such a value. -/
def message (e : FlagError) : String :=
  "SHEETFILL_DRY_RUN: expected a boolean, got '" ++ e.value ++ "'"

end FlagError

namespace Settings

/-- The truth value that a word stands for, whatever the letter case. Nothing is a no. -/
def flag (value : String) : Except FlagError Bool :=
  let word := Text.lowerAscii (Text.trim value)
  if ["1", "true", "yes", "on"].contains word then .ok true
  else if ["0", "false", "no", "off", ""].contains word then .ok false
  else .error ⟨word⟩

/-- The settings that an environment gives. -/
def ofEnvironment (env : Environment) : Except FlagError Settings := do
  let dryRun ← ((env.value? "SHEETFILL_DRY_RUN").map flag).getD (.ok false)
  return {
    defaultInput := ⟨(env.value? "SHEETFILL_DEFAULT_INPUT").getD "CareerPlan.md"⟩
    logFilter := ((env.value? "SHEETFILL_LOG").or (env.value? "RUST_LOG")).getD "info"
    dryRun }

end Settings

end FillScript
