import Calculator.Token.Scan
import Calculator.Expr.Parse
import Calculator.Expr.Machine
import Calculator.Settings

/-!
A calculation takes a source text through its three stages: scanning it into tokens, reading
the tokens into a tree, and evaluating the tree. The first failure stops it. A scanning error
always shows where in the source it happened; a parse error shows the location only when the
source is read as an expression on its own (`Expr.ofSource`), not within a calculation.
-/

namespace Calculator

/-- Why a calculation failed, at the stage that failed. `parseIn` is a parse error shown with
the source it was found in. -/
inductive CalcError where
  | lex (e : LexError)
  | parse (e : ParseError)
  | parseIn (e : ParseError) (source : String)
  | eval (e : EvalError)
  deriving Repr

namespace CalcError

/-- The bare message of the error. -/
def message : CalcError → String
  | .lex e => e.message
  | .parse e => e.message
  | .parseIn e _ => e.message
  | .eval e => e.message

/-- The full text of the error: with its location, where it carries one. -/
def text : CalcError → String
  | .lex e => e.text
  | .parse e => e.message
  | .parseIn e source => e.textIn source
  | .eval e => e.message

end CalcError

/-- Everything one calculation produced. -/
structure Calculation where
  source : String
  tokens : List Token
  tree : Expr
  value : Float

/-- Reads a source text as an expression tree; a parse error carries the source. -/
def Expr.ofSource (maxDepth : Int) (source : String) : Except CalcError Expr := do
  let tokens ← (Token.scan source).mapError .lex
  (Expr.parse maxDepth tokens).mapError (.parseIn · source)

/-- Scans, reads and evaluates a source text under the given settings. -/
def calculate (settings : Settings) (source : String) : Except CalcError Calculation := do
  let tokens ← (Token.scan source).mapError .lex
  let tree ← (Expr.parse settings.maxDepth tokens).mapError .parse
  let value ← tree.evaluate.mapError .eval
  pure ⟨source, tokens, tree, value⟩

end Calculator
