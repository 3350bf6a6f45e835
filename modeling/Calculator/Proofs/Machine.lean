import Calculator.Expr.Machine

/-!
The work-stack machine computes the value that the recursive evaluator gives. The machine keeps
no trace of the recursion; what ties it to the tree is an invariant on its frames: visiting a
tree with more frames behind it runs as the tree's value pushed onto the value stack, then those
frames. Operands are visited left before right, so the first failure in that order is the one
both report, and an unknown node fails when it is visited while an unknown operator fails when
its node is applied.

Main statement: `Expr.evaluate_eq_eval`.
-/

namespace Calculator

@[simp] theorem runFrames_nil (values : List Float) : runFrames [] values = .ok values := by
  rw [runFrames]

/-- Applying a node: the values it leaves, then the frames behind it. -/
theorem runFrames_apply (e : Expr) (rest : List Frame) (values : List Float) :
    runFrames (.apply e :: rest) values = applyNode e values >>= runFrames rest := by
  rw [runFrames]

theorem ok_bind {ε α β : Type} (a : α) (f : α → Except ε β) : (Except.ok a >>= f) = f a := rfl

/-- A binary node takes its right operand from the top of the stack, its left from below. -/
theorem applyNode_bin (op : String) (l r : Expr) (a b : Float) (values : List Float) :
    applyNode (.bin op l r) (b :: a :: values) = (binaryValue op a b).map (· :: values) := rfl

theorem applyNode_post (op : String) (e : Expr) (x : Float) (values : List Float) :
    applyNode (.post op e) (x :: values) = (postfixValue op x).map (· :: values) := rfl

theorem applyNode_call (name : String) (e : Expr) (x : Float) (values : List Float) :
    applyNode (.call name e) (x :: values) = (callValue name x).map (· :: values) := rfl

/-- A value pushed by a step, then the frames behind it. -/
theorem map_cons_bind (x : Except EvalError Float) (rest : List Frame) (values : List Float) :
    x.map (· :: values) >>= runFrames rest = x >>= fun y => runFrames rest (y :: values) := by
  cases x <;> rfl

/-- Visiting a tree, with any frames behind it and any values already computed: the machine
runs as the tree's value pushed on the values, then the frames behind. -/
theorem runFrames_visit (e : Expr) (rest : List Frame) (values : List Float) :
    runFrames (.visit e :: rest) values = e.eval >>= fun x => runFrames rest (x :: values) := by
  induction e generalizing rest values with
  | num text => rw [runFrames, Expr.eval]
  | bin op l r ihl ihr =>
    rw [runFrames, ihl, Expr.eval]
    cases l.eval with
    | error err => rfl
    | ok a =>
      simp only [ok_bind]
      rw [ihr]
      cases r.eval with
      | error err => rfl
      | ok b =>
        -- both operands are on the stack, the right one on top
        simp only [ok_bind]
        rw [runFrames_apply, applyNode_bin, map_cons_bind]
  | post op e ih =>
    rw [runFrames, ih, Expr.eval]
    cases e.eval with
    | error err => rfl
    | ok x =>
      simp only [ok_bind]
      rw [runFrames_apply, applyNode_post, map_cons_bind]
  | call name e ih =>
    rw [runFrames, ih, Expr.eval]
    cases e.eval with
    | error err => rfl
    | ok x =>
      simp only [ok_bind]
      rw [runFrames_apply, applyNode_call, map_cons_bind]
  | stray typeName => rw [runFrames, Expr.eval]; rfl

/-- Started on one tree with no values, the machine ends with the tree's value alone. -/
theorem runFrames_start (e : Expr) : runFrames [.visit e] [] = e.eval.map ([·]) := by
  rw [runFrames_visit]
  simp only [runFrames_nil]
  cases e.eval <;> rfl

/-- The machine started on a tree gives the tree's value, or the error the recursive evaluator
meets first. -/
theorem Expr.evaluate_eq_eval (e : Expr) : e.evaluate = e.eval := by
  rw [Expr.evaluate, runFrames_start]
  cases e.eval <;> rfl

end Calculator
