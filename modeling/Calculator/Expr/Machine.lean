import Calculator.Expr.Eval
import Calculator.Total

/-!
Evaluation with an explicit work stack, so that the depth of a tree costs no depth of calls.
The machine holds frames still to do and the values computed so far. A frame either visits a
subtree, or applies a node whose operands' values lie on top of the value stack. Visiting a
number pushes its value; visiting an operation schedules its own application and, above it,
visits of its subtrees from left to right. A stray value fails when it is visited. Started on
one tree, the machine ends with exactly its value on the stack.

Each step lowers the weight of the frames, twice the size of every tree still to visit plus one
for every node still to apply, so the machine stops.
-/

namespace Calculator

/-- A frame of work: a subtree to visit, or a node to apply to the values on the stack. -/
inductive Frame where
  | visit (e : Expr)
  | apply (e : Expr)
  deriving Repr

/-- The weight of a frame, which each step of the machine lowers. -/
def Frame.weight : Frame → Nat
  | .visit e => 2 * e.size
  | .apply _ => 1

/-- Applies a node to the values of its operands, taken from the top of the value stack (the
last operand on top). -/
def applyNode (e : Expr) (values : List Float) : Except EvalError (List Float) :=
  match e, values with
  | .bin op _ _, b :: a :: rest => (binaryValue op a b).map (· :: rest)
  | .post op _, x :: rest => (postfixValue op x).map (· :: rest)
  | .call name _, x :: rest => (callValue name x).map (· :: rest)
  | _, _ => .ok values

/-- Runs the machine until no frame is left, and returns the value stack. -/
def runFrames (frames : List Frame) (values : List Float) : Except EvalError (List Float) :=
  match frames with
  | [] => .ok values
  | .visit (.num text) :: rest => do
    let x ← numberValue text
    runFrames rest (x :: values)
  | .visit (.stray typeName) :: _ => .error (.unknownKind typeName)
  | .visit (.bin op l r) :: rest =>
    runFrames (.visit l :: .visit r :: .apply (.bin op l r) :: rest) values
  | .visit (.post op e) :: rest => runFrames (.visit e :: .apply (.post op e) :: rest) values
  | .visit (.call name e) :: rest => runFrames (.visit e :: .apply (.call name e) :: rest) values
  | .apply e :: rest => do
    runFrames rest (← applyNode e values)
termination_by total (frames.map Frame.weight)
decreasing_by
  all_goals simp only [List.map_cons, total_cons, Frame.weight, Expr.size]
  all_goals omega

/-- The value of a tree, computed by the machine. -/
def Expr.evaluate (e : Expr) : Except EvalError Float := do
  match ← runFrames [.visit e] [] with
  | x :: _ => pure x
  | [] => pure 0.0

end Calculator
