/-!
Values of a TOML document: strings, integers of any size, floats, booleans, dates and times,
arrays and tables. A table keeps its entries in the order they were defined; an array of tables
is an array whose items are tables. Dates and times are kept as their text, since nothing here
computes with them.

`Table.modifyAt` follows a dotted key down from a table, creating empty tables where nothing
stands, and rebuilds the tables on the way with the table at the end changed.
-/

namespace Calculator.Toml

/-- A TOML value. -/
inductive Value where
  | string (s : String)
  | integer (n : Int)
  | float (x : Float)
  | boolean (b : Bool)
  | datetime (text : String)
  | array (items : List Value)
  | table (entries : List (String × Value))
  deriving Inhabited, Repr

/-- A table: its keys with their values, in the order they were defined. -/
abbrev Table := List (String × Value)

/-- Whether a value is a container, an array or a table. -/
def Value.isContainer : Value → Bool
  | .array _ => true
  | .table _ => true
  | _ => false

namespace Table

/-- The value of a key. -/
def get? (t : Table) (k : String) : Option Value :=
  (t.find? (·.1 == k)).map (·.2)

/-- Whether the table has a key. -/
def has (t : Table) (k : String) : Bool :=
  t.any (·.1 == k)

/-- Sets the value of a key, in place when it has one and at the end otherwise. -/
def put (t : Table) (k : String) (v : Value) : Table :=
  if t.has k then t.map fun e => if e.1 == k then (k, v) else e else t ++ [(k, v)]

/-- Applies `f` to the table reached by following `key` from `t`, and rebuilds the tables on the
way. An absent key on the way gets an empty table; with `throughArrays`, an array on the way
stands for its last item, which must be a table. Anything else on the way is an error. -/
def modifyAt (throughArrays : Bool) (f : Table → Except String Table) :
    List String → Table → Except String Table
  | [], t => f t
  | k :: ks, t =>
    match t.get? k with
    | none => do pure (t.put k (.table (← modifyAt throughArrays f ks [])))
    | some (.table inner) => do pure (t.put k (.table (← modifyAt throughArrays f ks inner)))
    | some (.array items) =>
      match throughArrays, items.getLast? with
      | true, some (.table inner) => do
        let inner' ← modifyAt throughArrays f ks inner
        pure (t.put k (.array (items.dropLast ++ [.table inner'])))
      | _, _ => .error "There is no nest behind this key"
    | some _ => .error "There is no nest behind this key"

end Table

end Calculator.Toml
