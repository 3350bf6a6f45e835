/-!
The settings of the calculator: the nesting limit for reading expressions, at least one, and
the level of the messages it logs.
-/

namespace Calculator

/-- The levels of log messages, from the most detailed. -/
inductive LogLevel where
  | debug
  | info
  | warning
  | error
  | critical
  deriving Repr, DecidableEq

/-- The name of a level. -/
def LogLevel.name : LogLevel → String
  | .debug => "DEBUG"
  | .info => "INFO"
  | .warning => "WARNING"
  | .error => "ERROR"
  | .critical => "CRITICAL"

/-- The level with a name, if there is one. -/
def LogLevel.ofName? : String → Option LogLevel
  | "DEBUG" => some .debug
  | "INFO" => some .info
  | "WARNING" => some .warning
  | "ERROR" => some .error
  | "CRITICAL" => some .critical
  | _ => none

/-- The settings: a positive nesting limit and a log level. -/
structure Settings where
  maxDepth : Nat
  logLevel : LogLevel
  maxDepth_pos : 0 < maxDepth := by decide

/-- The nesting limit when none is set. -/
def defaultMaxDepth : Nat := 100

theorem defaultMaxDepth_pos : 0 < defaultMaxDepth := by decide

/-- The settings when none are given: nesting up to a hundred levels, warnings and above. -/
def Settings.default : Settings :=
  ⟨defaultMaxDepth, .warning, defaultMaxDepth_pos⟩

instance : Inhabited Settings := ⟨Settings.default⟩

end Calculator
