import Calculator.Calculation
import Calculator.Display
import Calculator.Graph
import Calculator.Settings.Load
import Calculator.Text.Json
import Calculator.Console.Table
import Calculator.Console.Tree

/-!
The command line: `[OPTIONS] COMMAND EXPRESSION [--json]`.

Before the command come the options `-c PATH` or `--config PATH` (the configuration file),
`-v` or `--verbose`, and `--version`, which prints the version and stops. The commands are `eval`,
which prints the value, `tokens`, which prints the tokens as a table, and `tree`, which draws the
tree; with `--json` each prints JSON instead. After the command, the option `--json` may stand
before or after the expression; `--` ends the options.

Options follow the usual rules: a long option takes its value after `=` or as the next word, a
short option takes the rest of its word or the next word, and short flags can share a word. A
word that starts with `-` and is not an option, a missing command or expression, or an extra
word is a usage error. A failure of the calculation prints `Error:` and its message.

`Command.run` computes the exit code and the printed text of one invocation; it reads files
and the environment only through its arguments.
-/

namespace Calculator

open Calculator.Text Calculator.Console

/-- The version of the calculator. -/
def version : String := "0.1.0"

/-- The width of the console that tables and trees are drawn for. -/
def consoleWidth : Nat := 80

/-- The commands. -/
inductive Action where
  | eval
  | tokens
  | tree
  deriving Repr, DecidableEq

/-- The command with a name. -/
def Action.ofName? : String → Option Action
  | "eval" => some .eval
  | "tokens" => some .tokens
  | "tree" => some .tree
  | _ => none

/-- What the words of a command line ask for. -/
structure Invocation where
  config : Option String := none
  verbose : Bool := false
  action : Action
  expression : String
  json : Bool := false
  deriving Repr

/-- The options before the command, as they are read. -/
structure GroupOptions where
  config : Option String := none
  verbose : Bool := false
  version : Bool := false

/-- The reading of a command line: a request for the version, an invocation, or a usage error. -/
inductive Request where
  | showVersion
  | invoke (inv : Invocation)
  | usageError (reason : String)
  deriving Repr

/-- Whether a word looks like an option: a dash and at least one more character. -/
def looksLikeOption (w : String) : Bool :=
  w.startsWith "-" && w.length > 1

/-- Splits `--name=value` at its first `=`. -/
def splitAssignment (w : String) : String × Option String :=
  match w.splitOn "=" with
  | [] => (w, none)
  | [name] => (name, none)
  | name :: rest => (name, some ("=".intercalate rest))

/-- Reads the short flags of one word after its dash, such as `v` or `vc`: the options, and
whether the word ends with `-c` so that the next word is the configuration file. -/
def shortFlags (opts : GroupOptions) : List Char → Except String (GroupOptions × Bool)
  | [] => .ok (opts, false)
  | 'v' :: more => shortFlags { opts with verbose := true } more
  | 'c' :: more =>
    if more.isEmpty then .ok (opts, true) else .ok ({ opts with config := some (String.ofList more) }, false)
  | c :: _ => .error s!"No such option: -{c}"

/-- Reads the options before the command; returns them and the words from the command on. -/
def groupOptions (opts : GroupOptions) : List String → Except String (GroupOptions × List String)
  | [] => .ok (opts, [])
  | w :: rest =>
    if w == "--" then .ok (opts, rest)
    else if !looksLikeOption w then .ok (opts, w :: rest)
    else
      match splitAssignment w with
      | ("--config", some v) => groupOptions { opts with config := some v } rest
      | ("--verbose", none) => groupOptions { opts with verbose := true } rest
      | ("--version", none) => groupOptions { opts with version := true } rest
      | ("--config", none) =>
        match rest with
        | path :: after => groupOptions { opts with config := some path } after
        | [] => .error "Option '--config' requires an argument."
      | (name, _) =>
        if name == "--verbose" || name == "--version" then .error s!"Option '{name}' does not take a value."
        else if w.startsWith "--" then .error s!"No such option: {name}"
        else
          match shortFlags opts (w.toList.drop 1) with
          | .error e => .error e
          | .ok (opts, false) => groupOptions opts rest
          | .ok (opts, true) =>
            match rest with
            | path :: after => groupOptions { opts with config := some path } after
            | [] => .error "Option '-c' requires an argument."

/-- Reads the words after a command: the `--json` flag anywhere, `--` ending the options, and
the other words in order. -/
def commandWords (json : Bool) (words : List String) : List String →
    Except String (Bool × List String)
  | [] => .ok (json, words)
  | w :: rest =>
    if w == "--" then .ok (json, words ++ rest)
    else if !looksLikeOption w then commandWords json (words ++ [w]) rest
    else
      match splitAssignment w with
      | ("--json", none) => commandWords true words rest
      | ("--json", some _) => .error "Option '--json' does not take a value."
      | (name, _) => .error s!"No such option: {name}"

/-- Reads a command line. -/
def Request.ofArgs (args : List String) : Request :=
  match groupOptions {} args with
  | .error e => .usageError e
  | .ok (opts, rest) =>
    if opts.version then .showVersion
    else
      match rest with
      | [] => .usageError "Missing command."
      | name :: words =>
        match Action.ofName? name with
        | none => .usageError s!"No such command '{name}'."
        | some action =>
          match commandWords false [] words with
          | .error e => .usageError e
          | .ok (json, [expression]) =>
            .invoke { config := opts.config, verbose := opts.verbose, action, expression, json }
          | .ok (_, []) => .usageError "Missing argument 'EXPRESSION'."
          | .ok (_, _) => .usageError "Got unexpected extra argument."

/-- What an invocation ends with: its exit code and what it printed. -/
structure Outcome where
  exitCode : Nat
  output : String
  deriving Repr, DecidableEq

/-- The exit code of a usage error. -/
def usageExitCode : Nat := 2

/-- Prints lines and ends well. -/
def Outcome.success (lines : List String) : Outcome :=
  ⟨0, String.join (lines.map (· ++ "\n"))⟩

/-- Prints the message of a failed calculation and ends with code 1. -/
def Outcome.failure (message : String) : Outcome :=
  ⟨1, "Error: " ++ message ++ "\n"⟩

/-- The JSON text of a token. -/
def Token.toJsonText (t : Token) : JsonText :=
  .obj [("kind", .str t.kind.name), ("text", .str t.text), ("pos", .int t.pos)]

/-- The JSON text of a graph node. -/
def GraphNode.toJsonText (n : GraphNode) : JsonText :=
  .obj [("id", .int n.id), ("label", .str n.label),
    ("parent_id", match n.parentId with | some p => .int p | none => .null)]

/-- The table of tokens. -/
def tokenTable (tokens : List Token) : List String :=
  renderTable consoleWidth s!"Tokens ({tokens.length})"
    [⟨"#", .right⟩, ⟨"Kind", .left⟩, ⟨"Text", .left⟩, ⟨"Pos", .right⟩]
    (tokens.zipIdx.map fun (t, i) => [toString i, t.kind.name, t.text, toString t.pos])

/-- Runs an invocation under the given settings. -/
def Invocation.perform (inv : Invocation) (settings : Settings) : Outcome :=
  match inv.action with
  | .eval =>
    match calculate settings inv.expression with
    | .error e => .failure e.message
    | .ok c =>
      if inv.json then
        .success [(JsonText.obj [("expression", .str inv.expression),
          ("result", .str (displayText c.value))]).render]
      else .success ["Result: " ++ displayText c.value]
  | .tokens =>
    match Token.scan inv.expression with
    | .error e => .failure e.message
    | .ok tokens =>
      if inv.json then .success [(JsonText.arr (tokens.map Token.toJsonText)).render]
      else .success (tokenTable tokens)
  | .tree =>
    match Token.scan inv.expression with
    | .error e => .failure e.message
    | .ok tokens =>
      match Expr.parse settings.maxDepth tokens with
      | .error e => .failure e.message
      | .ok tree =>
        if inv.json then .success [(JsonText.arr ((treeNodes tree).map GraphNode.toJsonText)).render]
        else .success (renderTree consoleWidth tree)

/-- The configuration file read when none is named. -/
def defaultConfigFile : String := "treecalc.toml"

/-- The configuration file that a command line reads, if it runs a command. -/
def Command.configFile (args : List String) : Option String :=
  match Request.ofArgs args with
  | .invoke inv => some (inv.config.getD defaultConfigFile)
  | _ => none

/-- Runs a command line. `readFile` gives the text of a file, if it exists, and `env` the
environment. -/
def Command.run (args : List String) (readFile : String → Option String)
    (env : List (String × String)) : Outcome :=
  match Request.ofArgs args with
  | .usageError _ => ⟨usageExitCode, ""⟩
  | .showVersion => .success [s!"treecalc version {version}"]
  | .invoke inv =>
    let settings := Settings.load (readFile (inv.config.getD defaultConfigFile)) env
    inv.perform settings

end Calculator
