/-!
Expression trees. A tree is a number kept as its source text, a binary operation, a postfix
operation, or a function call. Trees built by hand may hold anything in a node's place; such a
stray value keeps only the name of its type. Operators and function names are kept as text, so
a tree built by hand may carry any of them; the evaluator decides which it knows.

`Expr.render` writes a tree with every binary operation in parentheses, `Expr.symbol` is the
text that stands for a node, and `Expr.children` lists its subtrees from left to right.
-/

namespace Calculator

/-- An expression tree. -/
inductive Expr where
  | num (text : String)
  | bin (op : String) (left right : Expr)
  | post (op : String) (operand : Expr)
  | call (name : String) (arg : Expr)
  | stray (typeName : String)
  deriving Repr, DecidableEq, Inhabited

namespace Expr

/-- The text of a tree: binary operations in parentheses with blanks around the operator, a
postfix operator after its operand, a call as the name and the argument in parentheses. A stray
value, of which only the type name is kept, is written as that name; the program writes the
value itself, and no tree the reader builds holds one. -/
def render : Expr → String
  | .num text => text
  | .bin op l r => "(" ++ l.render ++ " " ++ op ++ " " ++ r.render ++ ")"
  | .post op e => e.render ++ op
  | .call name e => name ++ "(" ++ e.render ++ ")"
  | .stray typeName => typeName

/-- The text that stands for a node: a number's text, an operator or a function name. A stray
value has none in the program, which fails when asked for it; here it stands in with its type
name, and no tree the reader builds holds one. -/
def symbol : Expr → String
  | .num text => text
  | .bin op _ _ => op
  | .post op _ => op
  | .call name _ => name
  | .stray typeName => typeName

/-- The subtrees of a node, from left to right. -/
def children : Expr → List Expr
  | .num _ => []
  | .bin _ l r => [l, r]
  | .post _ e => [e]
  | .call _ e => [e]
  | .stray _ => []

/-- The number of nodes of a tree. -/
def size : Expr → Nat
  | .num _ => 1
  | .bin _ l r => l.size + r.size + 1
  | .post _ e => e.size + 1
  | .call _ e => e.size + 1
  | .stray _ => 1

theorem size_pos (e : Expr) : 0 < e.size := by
  cases e <;> simp [size]

end Expr

end Calculator
