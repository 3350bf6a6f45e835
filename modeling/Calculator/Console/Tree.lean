import Calculator.Console.Wrap
import Calculator.Expr
import Calculator.Graph

/-!
Expression trees drawn with guide lines. The root's label stands alone on the first line; each
child follows its parent, indented under it by a guide: `├── ` before a child with more
siblings after it, `└── ` before the last child, and below them `│   ` or `    ` to carry the
line of an ancestor's later siblings. A label is the node's text and, in parentheses, its kind.
A label wider than the room left of the console wraps at its blank, and its further lines
hang under the first, behind the guide that carries on.
-/

namespace Calculator.Console

/-- The label of a tree node in a drawing: its text and its kind in parentheses. -/
def drawnLabel (e : Expr) : String :=
  e.symbol ++ " (" ++ e.kind.name ++ ")"

/-- The lines of one node's label: `lead` is the guides of its ancestors, `guide` its own guide
on the first line and `carry` the guide on the further lines. A node whose guides leave no room
shows no line at all. -/
def labelLines (consoleWidth : Nat) (lead guide carry : String) (e : Expr) : List String :=
  let room := consoleWidth - (lead.length + guide.length)
  if room = 0 then []
  else
    match wrapLine room .fold (drawnLabel e) with
    | [] => []
    | first :: more => (lead ++ guide ++ first) :: more.map (lead ++ carry ++ ·)

/-- The lines of a subtree whose root has the guides `guide` and `carry` after `lead`. -/
def outline (consoleWidth : Nat) (lead guide carry : String) : Expr → List String
  | e@(.bin _ l r) =>
    labelLines consoleWidth lead guide carry e ++
      outline consoleWidth (lead ++ carry) "├── " "│   " l ++
      outline consoleWidth (lead ++ carry) "└── " "    " r
  | e@(.post _ x) =>
    labelLines consoleWidth lead guide carry e ++ outline consoleWidth (lead ++ carry) "└── " "    " x
  | e@(.call _ x) =>
    labelLines consoleWidth lead guide carry e ++ outline consoleWidth (lead ++ carry) "└── " "    " x
  | e => labelLines consoleWidth lead guide carry e

/-- The lines of a tree drawn for a console `consoleWidth` columns wide; the console cuts a
line that is wider. -/
def renderTree (consoleWidth : Nat) (e : Expr) : List String :=
  (outline consoleWidth "" "" "" e).map fun line => String.ofList (line.toList.take consoleWidth)

end Calculator.Console
