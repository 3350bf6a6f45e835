import Calculator.Graph

/-!
Exporting a tree as graph nodes. The walk with an explicit stack numbers the nodes as the
recursive pre-order `Expr.preorder` does: the stack holds the trees still to visit, the next on
top, and the pre-order export of those trees, numbered on from the nodes visited so far, is
exactly what the walk still writes.

From the recursive form follow the shape of the export: the ids are `0, 1, …` in list order,
the nodes of each subtree come right after its root with the ids that follow its root's, every
node hangs from a node with a smaller id, and the edges give each link from a parent to a child
once, in pre-order of the child.

Main statement: `treeNodes_preorder`.
-/

namespace Calculator

namespace Expr

/-- The subtrees of a tree in pre-order, the tree itself first. -/
def subtrees : Expr → List Expr
  | e@(.bin _ l r) => e :: (l.subtrees ++ r.subtrees)
  | e@(.post _ x) => e :: x.subtrees
  | e@(.call _ x) => e :: x.subtrees
  | e@(.num _) => [e]
  | e@(.stray _) => [e]

/-- The links from parent to child of a tree whose root has the id `next`, the nodes numbered
in pre-order, each link listed where its child comes in pre-order. -/
def links (next : Nat) : Expr → List (Nat × Nat)
  | .bin _ l r =>
    (next, next + 1) :: (l.links (next + 1) ++
      (next, next + 1 + l.size) :: r.links (next + 1 + l.size))
  | .post _ x => (next, next + 1) :: x.links (next + 1)
  | .call _ x => (next, next + 1) :: x.links (next + 1)
  | .num _ => []
  | .stray _ => []

theorem length_subtrees (e : Expr) : e.subtrees.length = e.size := by
  induction e with
  | bin _ l r ihl ihr =>
    simp only [subtrees, size, List.length_cons, List.length_append, ihl, ihr]
  | post _ x ih | call _ x ih => simp only [subtrees, size, List.length_cons, ih]
  | num | stray => rfl

@[simp] theorem length_preorder (next : Nat) (parent : Option Nat) (e : Expr) :
    (e.preorder next parent).length = e.size := by
  induction e generalizing next parent with
  | bin _ l r ihl ihr =>
    simp only [preorder, size, List.length_cons, List.length_append, ihl, ihr]
  | post _ x ih | call _ x ih => simp only [preorder, size, List.length_cons, ih]
  | num | stray => rfl

/-- A tree has one node more than its children together. -/
theorem size_eq_children (e : Expr) (parent : Option Nat) :
    e.size = stackSize (e.children.map (·, parent)) + 1 := by
  cases e with
  | bin _ l r =>
    simp only [size, children, stackSize, List.map_cons, List.map_nil, total_cons, total_nil]
    omega
  | post | call | num | stray =>
    simp only [size, children, stackSize, List.map_cons, List.map_nil, total_cons, total_nil]

end Expr

/-- The pre-order export of the trees on a stack, the top first, numbered from `next`: the
nodes of each tree come after those of the trees above it. -/
def stackPreorder (next : Nat) : List (Expr × Option Nat) → List GraphNode
  | [] => []
  | (e, parent) :: rest => e.preorder next parent ++ stackPreorder (next + e.size) rest

@[simp] theorem stackSize_nil : stackSize [] = 0 := rfl

@[simp] theorem stackSize_cons (e : Expr) (parent : Option Nat) (rest : List (Expr × Option Nat)) :
    stackSize ((e, parent) :: rest) = e.size + stackSize rest := rfl

theorem stackPreorder_append (next : Nat) (xs ys : List (Expr × Option Nat)) :
    stackPreorder next (xs ++ ys) =
      stackPreorder next xs ++ stackPreorder (next + stackSize xs) ys := by
  induction xs generalizing next with
  | nil => rfl
  | cons p xs ih =>
    obtain ⟨e, parent⟩ := p
    simp only [List.cons_append, stackPreorder, ih, List.append_assoc, stackSize_cons,
      Nat.add_assoc]

namespace Expr

/-- A tree's export is its root, then the exports of its children, each hanging from the root. -/
theorem preorder_eq_root_children (e : Expr) (next : Nat) (parent : Option Nat) :
    e.preorder next parent =
      ⟨next, e.label, parent⟩ :: stackPreorder (next + 1) (e.children.map (·, some next)) := by
  cases e <;> simp [preorder, children, stackPreorder]

end Expr

/-- The walk writes the nodes visited so far, then the pre-order export of what is left on the
stack, numbered on from the count of nodes visited. -/
theorem walkNodes_eq (stack : List (Expr × Option Nat)) (done : List GraphNode) :
    walkNodes stack done = done.reverse ++ stackPreorder done.length stack := by
  fun_induction walkNodes stack done with
  | case1 done => simp [stackPreorder]
  | case2 done e parent rest id ih =>
    -- the children go on the stack above the rest, and their exports make up the tree's
    rw [ih, stackPreorder_append, stackPreorder, e.preorder_eq_root_children,
      e.size_eq_children (some done.length)]
    simp only [List.reverse_cons, List.length_cons, List.append_assoc, List.cons_append,
      List.nil_append, id, Nat.add_assoc, Nat.add_comm 1]

theorem treeNodes_eq_preorder (e : Expr) : treeNodes e = e.preorder 0 none := by
  simp [treeNodes, walkNodes_eq, stackPreorder]

/-! ### The shape of the export -/

/-- A node of the export of a tree whose root has the id `next` and hangs from `parent`: the
root itself, or a node that hangs from a node of the tree with a smaller id than its own. -/
def Hangs (next : Nat) (parent : Option Nat) (node : GraphNode) : Prop :=
  (node.id = next ∧ node.parentId = parent) ∨
    ∃ q, node.parentId = some q ∧ next ≤ q ∧ q < node.id

/-- A node of a child's export, the child hanging from `n` and numbered after it, hangs within
the parent's tree. -/
theorem Hangs.of_child {n m : Nat} {parent : Option Nat} {node : GraphNode}
    (h : Hangs m (some n) node) (hnm : n < m) : Hangs n parent node := by
  right
  rcases h with ⟨hid, hp⟩ | ⟨q, hq, hmq, hlt⟩
  · exact ⟨n, hp, Nat.le_refl n, by omega⟩
  · exact ⟨q, hq, by omega, hlt⟩

/-- Edges of nodes written one after another. -/
theorem edges_append (xs ys : List GraphNode) : edges (xs ++ ys) = edges xs ++ edges ys :=
  List.filterMap_append

@[simp] theorem edges_nil : edges [] = [] := rfl

theorem edges_cons (node : GraphNode) (rest : List GraphNode) :
    edges (node :: rest) = (node.parentId.map (·, node.id)).toList ++ edges rest := by
  cases h : node.parentId <;> simp [edges, h]

namespace Expr

/-- The ids of a tree's export run on from its root's, one for each node. -/
theorem ids_preorder (e : Expr) (next : Nat) (parent : Option Nat) :
    (e.preorder next parent).map GraphNode.id = List.range' next e.size := by
  induction e generalizing next parent with
  | bin _ l r ihl ihr =>
    simp only [preorder, size, List.map_cons, List.map_append, ihl, ihr]
    rw [List.range'_append_1, List.range'_succ]
  | post _ x ih | call _ x ih =>
    simp only [preorder, size, List.map_cons, ih]
    rw [List.range'_succ]
  | num | stray => rfl

/-- Every node of a tree's export is its root or hangs from an earlier node of the tree. -/
theorem hangs_of_mem_preorder (e : Expr) (next : Nat) (parent : Option Nat) {node : GraphNode}
    (h : node ∈ e.preorder next parent) : Hangs next parent node := by
  induction e generalizing next parent with
  | bin _ l r ihl ihr =>
    simp only [preorder, List.mem_cons, List.mem_append] at h
    rcases h with rfl | hl | hr
    · exact .inl ⟨rfl, rfl⟩
    · exact (ihl _ _ hl).of_child (by omega)
    · exact (ihr _ _ hr).of_child (by omega)
  | post _ x ih | call _ x ih =>
    simp only [preorder, List.mem_cons] at h
    rcases h with rfl | hx
    · exact .inl ⟨rfl, rfl⟩
    · exact (ih _ _ hx).of_child (by omega)
  | num | stray =>
    simp only [preorder, List.mem_singleton] at h
    exact .inl ⟨by rw [h], by rw [h]⟩

/-- The first subtree is the tree itself, exported from its own root on. -/
theorem preorder_prefix_of_root {e s : Expr} {next : Nat} {parent : Option Nat}
    (h : e.subtrees[0]? = some s) :
    ∃ q, s.preorder (next + 0) q <+: (e.preorder next parent).drop 0 := by
  have hs : e.subtrees[0]? = some e := by cases e <;> rfl
  rw [hs] at h
  cases h
  exact ⟨parent, List.prefix_refl _⟩

/-- The subtree at a position of the pre-order is exported from that position on: its nodes
come together, with the ids that follow its root's. -/
theorem preorder_prefix_of_subtree (e : Expr) (next : Nat) (parent : Option Nat) {i : Nat}
    {s : Expr} (h : e.subtrees[i]? = some s) :
    ∃ q, s.preorder (next + i) q <+: (e.preorder next parent).drop i := by
  -- position zero is the root; a later one falls in the part of one child
  induction e generalizing next parent i with
  | bin _ l r ihl ihr =>
    cases i with
    | zero => exact preorder_prefix_of_root h
    | succ j =>
      simp only [subtrees, List.getElem?_cons_succ] at h
      simp only [preorder, List.drop_succ_cons]
      by_cases hj : j < l.size
      · rw [List.getElem?_append_left (by rwa [length_subtrees])] at h
        obtain ⟨q, hq⟩ := ihl (next + 1) (some next) h
        rw [List.drop_append_of_le_length (by rw [length_preorder]; omega),
          show next + (j + 1) = next + 1 + j by omega]
        exact ⟨q, hq.trans (List.prefix_append _ _)⟩
      · rw [List.getElem?_append_right (by rw [length_subtrees]; omega), length_subtrees] at h
        obtain ⟨q, hq⟩ := ihr (next + 1 + l.size) (some next) h
        rw [List.drop_append, List.drop_eq_nil_of_le (by rw [length_preorder]; omega),
          List.nil_append, length_preorder,
          show next + (j + 1) = next + 1 + l.size + (j - l.size) by omega]
        exact ⟨q, hq⟩
  | post _ x ih | call _ x ih =>
    cases i with
    | zero => exact preorder_prefix_of_root h
    | succ j =>
      simp only [subtrees, List.getElem?_cons_succ] at h
      simp only [preorder, List.drop_succ_cons]
      rw [show next + (j + 1) = next + 1 + j by omega]
      exact ih (next + 1) (some next) h
  | num | stray =>
    cases i with
    | zero => exact preorder_prefix_of_root h
    | succ j => simp [subtrees] at h

/-- The edges of a tree's export: the link of its root to `parent`, if any, then the tree's own
links. -/
theorem edges_preorder (e : Expr) (next : Nat) (parent : Option Nat) :
    edges (e.preorder next parent) = (parent.map (·, next)).toList ++ e.links next := by
  induction e generalizing next parent with
  | bin _ l r ihl ihr =>
    simp [preorder, links, edges_cons, edges_append, ihl, ihr, label]
  | post _ x ih | call _ x ih =>
    simp [preorder, links, edges_cons, ih]
  | num | stray => simp only [preorder, links, edges_cons, edges_nil, List.append_nil]

/-- The children in the links of a tree are its nodes after the root, in order. -/
theorem children_links (e : Expr) (next : Nat) :
    (e.links next).map Prod.snd = List.range' (next + 1) (e.size - 1) := by
  induction e generalizing next with
  | bin _ l r ihl ihr =>
    simp only [links, size, List.map_cons, List.map_append, ihl, ihr]
    -- each child's links begin with the link to its root, the first id of its run
    rw [← List.cons_append, ← (List.range'_eq_cons_iff.mpr ⟨rfl, l.size_pos, rfl⟩),
      ← (List.range'_eq_cons_iff.mpr ⟨rfl, r.size_pos, rfl⟩), List.range'_append_1]
    congr 1
  | post _ x ih | call _ x ih =>
    simp only [links, size, List.map_cons, ih]
    rw [← (List.range'_eq_cons_iff.mpr ⟨rfl, x.size_pos, rfl⟩)]
    congr 1
  | num | stray => rfl

end Expr

/-- The walk with a stack exports a tree in pre-order. So the ids are `0, 1, …` in list order;
the subtree at each position of the pre-order is exported from that position on, its nodes
together with the ids that follow its root's; every node hangs from a node with a smaller id;
and the edges are the tree's links from parent to child, one for each node after the root, in
pre-order of the child. -/
theorem treeNodes_preorder (e : Expr) :
    treeNodes e = e.preorder 0 none ∧
      (treeNodes e).map GraphNode.id = List.range e.size ∧
      (∀ i s, e.subtrees[i]? = some s → ∃ q, s.preorder i q <+: (treeNodes e).drop i) ∧
      (∀ node ∈ treeNodes e, ∀ q, node.parentId = some q → q < node.id) ∧
      edges (treeNodes e) = e.links 0 ∧
      (e.links 0).map Prod.snd = List.range' 1 (e.size - 1) := by
  rw [treeNodes_eq_preorder]
  refine ⟨rfl, ?_, ?_, ?_, e.edges_preorder 0 none, e.children_links 0⟩
  · rw [e.ids_preorder, List.range_eq_range']
  · intro i s h
    have hpre := e.preorder_prefix_of_subtree 0 none h
    rwa [Nat.zero_add] at hpre
  · intro node hnode q hq
    -- the root hangs from nothing, so a node with a parent is not the root
    rcases e.hangs_of_mem_preorder 0 none hnode with ⟨-, hroot⟩ | ⟨q', hq', -, hlt⟩
    · rw [hroot] at hq
      cases hq
    · rw [hq] at hq'
      cases hq'
      exact hlt

example :
    edges (treeNodes (.bin "+" (.num "2") (.bin "*" (.num "3") (.num "4")))) =
      [(0, 1), (0, 2), (2, 3), (2, 4)] := by
  rw [treeNodes_eq_preorder, Expr.edges_preorder]
  rfl

end Calculator
