import Calculator.Expr
import Calculator.Token
import Calculator.Total

/-!
Graphs of tokens and trees, as flat lists of nodes for a drawing component. A node has an id,
a label of two lines, the text and then the kind in parentheses, and the id of the node it
hangs from. Tokens form a chain from left to right. A tree's nodes come in pre-order, numbered
in the order they are visited; a node's kind is that of the token it was read from.

`treeNodes` walks the tree with an explicit stack; `Expr.preorder` states the same order by
recursion on the tree. `edges` lists each node's link to its parent.
-/

namespace Calculator

/-- A node of an exported graph. -/
structure GraphNode where
  id : Nat
  label : String
  parentId : Option Nat
  deriving Repr, DecidableEq

/-- The label of a node: its text and, on a second line, its kind in parentheses. -/
def nodeLabel (text : String) (kind : TokenKind) : String :=
  text ++ "\n(" ++ kind.name ++ ")"

/-- The kind of token a tree node is read from; the power sign has its own kind. -/
def Expr.kind : Expr → TokenKind
  | .num _ => .number
  | .call _ _ => .function
  | .bin op _ _ => if op = "^" then .power else .operator
  | .post _ _ => .factorial
  | .stray _ => .factorial

/-- The label of a tree node. -/
def Expr.label (e : Expr) : String :=
  nodeLabel e.symbol e.kind

/-- The tokens as a chain: each token hangs from the one before it. -/
def tokenNodes (tokens : List Token) : List GraphNode :=
  tokens.mapIdx fun i t => ⟨i, nodeLabel t.text t.kind, if i = 0 then none else some (i - 1)⟩

/-- The pre-order nodes of a tree whose root gets the id `next` and hangs from `parent`. -/
def Expr.preorder (next : Nat) (parent : Option Nat) : Expr → List GraphNode
  | e@(.bin _ l r) =>
    ⟨next, e.label, parent⟩ ::
      (l.preorder (next + 1) (some next) ++ r.preorder (next + 1 + l.size) (some next))
  | e@(.post _ x) => ⟨next, e.label, parent⟩ :: x.preorder (next + 1) (some next)
  | e@(.call _ x) => ⟨next, e.label, parent⟩ :: x.preorder (next + 1) (some next)
  | e@(.num _) => [⟨next, e.label, parent⟩]
  | e@(.stray _) => [⟨next, e.label, parent⟩]

/-- The total size of the trees waiting on a stack. -/
def stackSize (stack : List (Expr × Option Nat)) : Nat :=
  total (stack.map fun p => p.1.size)

/-- Walks a stack of trees, each with the id of its parent: the top tree's root gets the next
id, and its children go on the stack, the leftmost on top. `done` holds the nodes visited so
far, the last first. -/
def walkNodes (stack : List (Expr × Option Nat)) (done : List GraphNode) : List GraphNode :=
  match stack with
  | [] => done.reverse
  | (e, parent) :: rest =>
    let id := done.length
    walkNodes (e.children.map (·, some id) ++ rest) (⟨id, e.label, parent⟩ :: done)
termination_by stackSize stack
decreasing_by
  simp only [stackSize, List.map_append, List.map_map, total_append, List.map_cons,
    total_cons]
  cases e <;>
    simp only [Expr.children, Expr.size, List.map_cons, List.map_nil, total_cons, total_nil,
      Function.comp_apply] <;> omega

/-- The nodes of a tree in pre-order, ids in the order of the visit. -/
def treeNodes (e : Expr) : List GraphNode :=
  walkNodes [(e, none)] []

/-- A link from each node that has a parent to that parent: `(parent, child)`. -/
def edges (nodes : List GraphNode) : List (Nat × Nat) :=
  nodes.filterMap fun n => n.parentId.map (·, n.id)

end Calculator
