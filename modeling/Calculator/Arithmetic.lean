import Calculator.Decimal.Binary

/-!
The arithmetic of the calculator on IEEE doubles. The four operations round as IEEE 754 says,
so a nonzero number divided by a zero is an infinity whose sign is the product of the signs,
and zero or not-a-number divided by zero is not a number. The power is IEEE 754's `pow`.
The factorial is defined on the non-negative whole numbers; it is the product `1 · 2 · … · n`
rounded after each step, and an infinity beyond `170`, whose factorial is the largest that is
finite. Sine and cosine take radians.
-/

namespace Calculator

open Calculator.Decimal

/-- The binary operators. -/
inductive BinaryOp where
  | add
  | sub
  | mul
  | div
  | pow
  deriving Repr, DecidableEq

namespace BinaryOp

/-- The operator written with a symbol, if there is one. -/
def ofSymbol? : String → Option BinaryOp
  | "+" => some .add
  | "-" => some .sub
  | "*" => some .mul
  | "/" => some .div
  | "^" => some .pow
  | _ => none

/-- The symbol of an operator. -/
def symbol : BinaryOp → String
  | .add => "+"
  | .sub => "-"
  | .mul => "*"
  | .div => "/"
  | .pow => "^"

/-- Applies an operator to two doubles. -/
def apply : BinaryOp → Float → Float → Float
  | .add, a, b => a + b
  | .sub, a, b => a - b
  | .mul, a, b => a * b
  | .div, a, b => a / b
  | .pow, a, b => Float.pow a b

theorem ofSymbol?_symbol (op : BinaryOp) : ofSymbol? op.symbol = some op := by
  cases op <;> rfl

end BinaryOp

/-- The functions of one argument. -/
inductive UnaryFn where
  | sin
  | cos
  deriving Repr, DecidableEq

namespace UnaryFn

/-- The function with a name, if there is one; names are matched exactly. -/
def ofName? : String → Option UnaryFn
  | "sin" => some .sin
  | "cos" => some .cos
  | _ => none

/-- Applies a function to a double. -/
def apply : UnaryFn → Float → Float
  | .sin, x => Float.sin x
  | .cos, x => Float.cos x

end UnaryFn

/-- The whole number that a double holds, if it holds one that is not negative; a negative
zero holds zero. -/
def wholeValue? (x : Float) : Option Nat :=
  match Parts.ofFloat x with
  | .zero _ => some 0
  | .finite false b => b.whole?
  | _ => none

/-- The largest whole number whose factorial is a finite double. -/
def largestFiniteFactorial : Nat := 170

/-- The factorial of `n` as a double: the running product rounded at each step, or an
infinity when `n` is beyond `largestFiniteFactorial`. -/
def factorial (n : Nat) : Float :=
  if n > largestFiniteFactorial then 1.0 / 0.0
  else (List.range' 2 (n - 1)).foldl (fun acc k => acc * k.toFloat) 1.0

end Calculator
