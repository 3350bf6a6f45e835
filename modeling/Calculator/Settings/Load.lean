import Calculator.Settings.Lenient
import Calculator.Toml.Document

/-!
Where the settings come from. The configuration file's table named `configTable` gives the
values `max_depth` and `log_level`; a missing file, a file that is not valid TOML, or a value of
that name that is not a table gives none. The environment variables `maxDepthVariable` and
`logLevelVariable`, trimmed of blanks, replace them when not empty. The values are then
checked together: if any is invalid, all are dropped and the defaults hold. Other keys of the
table are ignored.
-/

namespace Calculator

open Calculator.Text

/-- The environment variable for the nesting limit. -/
def maxDepthVariable : String := "TREECALC_MAX_DEPTH"

/-- The environment variable for the log level. -/
def logLevelVariable : String := "TREECALC_LOG_LEVEL"

/-- The name of the configuration file's table that holds the settings. -/
def configTable : String := "treecalc"

/-- The settings table of a configuration file's text, or an empty table. -/
def configSection : Option String → Toml.Table
  | none => []
  | some text =>
    match Toml.parse text with
    | .ok root =>
      match root.get? configTable with
      | some (.table t) => t
      | _ => []
    | .error _ => []

/-- Replaces a key's value by an environment variable's text, trimmed, when it is not empty. -/
def overrideWith (t : Toml.Table) (key : String) : Option String → Toml.Table
  | some text =>
    let trimmed := String.ofList (trimBlanks text.toList)
    if trimmed.isEmpty then t else t.put key (.string trimmed)
  | none => t

/-- The settings a table gives: each present value must be valid, or the defaults hold. -/
def Settings.ofTable (t : Toml.Table) : Settings :=
  let depth := (t.get? "max_depth").map Toml.Value.maxDepth?
  let level := (t.get? "log_level").map Toml.Value.logLevel?
  match depth, level with
  | some none, _ => .default
  | _, some none => .default
  | depth, level =>
    let d := depth.join.getD ⟨defaultMaxDepth, defaultMaxDepth_pos⟩
    ⟨d.1, level.join.getD .warning, d.2⟩

/-- The settings from a configuration file's text, if there is a file, and the environment. -/
def Settings.load (config : Option String) (env : List (String × String)) : Settings :=
  let t := configSection config
  let t := overrideWith t "max_depth" (env.lookup maxDepthVariable)
  let t := overrideWith t "log_level" (env.lookup logLevelVariable)
  Settings.ofTable t

end Calculator
