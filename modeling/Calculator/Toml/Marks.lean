/-!
What a TOML document has already defined, kept beside its values by dotted key. A key can be
marked `declared`, when a table header or a dotted key has defined its table so that no header
may define it again, or `frozen`, when it holds an inline table or an array that nothing may be
added to. A mark either holds for the key alone or is inherited by every key below it.
-/

namespace Calculator.Toml

/-- The marks a key can carry. -/
inductive Mark where
  | frozen
  | declared
  deriving Repr, DecidableEq, BEq

/-- The marks of one key: its own, those inherited below it, and the keys below it. -/
inductive MarkTree where
  | node (own : List Mark) (inherited : List Mark) (below : List (String × MarkTree))
  deriving Inhabited

/-- The marks of the keys of one table. -/
abbrev Marks := List (String × MarkTree)

namespace Marks

/-- The marks of a key of the table. -/
def node? (m : Marks) (k : String) : Option MarkTree :=
  (m.find? (·.1 == k)).map (·.2)

/-- Changes the marks of a key, starting from none when it has none. -/
def alter (m : Marks) (k : String) (f : MarkTree → MarkTree) : Marks :=
  match m.node? k with
  | some n => m.map fun e => if e.1 == k then (k, f n) else e
  | none => m ++ [(k, f (.node [] [] []))]

/-- Marks the key at the end of a dotted key, for itself or for everything below it. -/
def add (m : Marks) (mark : Mark) (inherit : Bool) : List String → Marks
  | [] => m
  | [k] => m.alter k fun
    | .node own inh below => if inherit then .node own (mark :: inh) below else .node (mark :: own) inh below
  | k :: ks => m.alter k fun
    | .node own inh below => .node own inh (add below mark inherit ks)

/-- Whether the key at the end of a dotted key carries a mark, its own or inherited from a key
above it. -/
def has (m : Marks) (mark : Mark) : List String → Bool
  | [] => false
  | [k] =>
    match m.node? k with
    | some (.node own inh _) => own.contains mark || inh.contains mark
    | none => false
  | k :: ks =>
    match m.node? k with
    | some (.node _ inh below) => inh.contains mark || has below mark ks
    | none => false

/-- Removes every mark at and below the key at the end of a dotted key. -/
def clear (m : Marks) : List String → Marks
  | [] => m
  | [k] => m.filter (·.1 != k)
  | k :: ks =>
    match m.node? k with
    | some _ => m.alter k fun
      | .node own inh below => .node own inh (clear below ks)
    | none => m

end Marks

end Calculator.Toml
