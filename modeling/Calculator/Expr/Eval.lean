import Calculator.Expr
import Calculator.Arithmetic
import Calculator.Decimal.Read
import Calculator.Text.Quoted

/-!
The value of an expression tree. A number is its text read as a literal; an operation applies
to the values of its subtrees, computed from left to right, and the first failure in that
order is the answer. A node fails when its operator or function is unknown, a number whose text
is no literal fails, and so does the factorial of anything but a non-negative whole number. A
stray value in a node's place fails as soon as it is reached.
-/

namespace Calculator

/-- Why a tree has no value. -/
inductive EvalError where
  | badLiteral (text : String)
  | unknownOperator (op : String)
  | factorialDomain
  | unknownFunction (name : String)
  | unknownKind (typeName : String)
  deriving Repr, DecidableEq

/-- The message of an evaluation error. -/
def EvalError.message : EvalError → String
  | .badLiteral text => s!"Invalid number literal: {Text.quoted text}"
  | .unknownOperator op => s!"Unknown operator: {op}"
  | .factorialDomain => "Factorial is defined for non-negative integers only"
  | .unknownFunction name => s!"Unknown function: {name}"
  | .unknownKind typeName => s!"Unknown expression type: {typeName}"

/-- The value of a number's text. -/
def numberValue (text : String) : Except EvalError Float :=
  match Decimal.readFloat? text with
  | some x => .ok x
  | none => .error (.badLiteral text)

/-- A binary operation on the values of its operands. -/
def binaryValue (op : String) (a b : Float) : Except EvalError Float :=
  match BinaryOp.ofSymbol? op with
  | some o => .ok (o.apply a b)
  | none => .error (.unknownOperator op)

/-- A postfix operation on the value of its operand: only the factorial is known. -/
def postfixValue (op : String) (x : Float) : Except EvalError Float :=
  if op = "!" then
    match wholeValue? x with
    | some n => .ok (factorial n)
    | none => .error .factorialDomain
  else .error (.unknownOperator op)

/-- A function applied to the value of its argument. -/
def callValue (name : String) (x : Float) : Except EvalError Float :=
  match UnaryFn.ofName? name with
  | some f => .ok (f.apply x)
  | none => .error (.unknownFunction name)

/-- The value of a tree, subtrees first and from left to right. -/
def Expr.eval : Expr → Except EvalError Float
  | .num text => numberValue text
  | .bin op l r => do
    let a ← l.eval
    let b ← r.eval
    binaryValue op a b
  | .post op e => do postfixValue op (← e.eval)
  | .call name e => do callValue name (← e.eval)
  | .stray typeName => .error (.unknownKind typeName)

end Calculator
