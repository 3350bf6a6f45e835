import Calculator.Toml.Lexeme
import Calculator.Toml.Marks

/-!
Reading a TOML value: a string, a boolean, an array, an inline table, a date or time, or a
number. An array may span lines and hold comments, and may end with a comma; an inline table
stays on one line, has no comma at its end, and is complete once closed: a dotted key inside it
cannot add to a table or array given as a value before it.

The readers call one another; each call gets a shorter text or comes from a reader of higher
rank on the same text, which makes them end.
-/

namespace Calculator.Toml

/-- Splits a dotted key into the keys of its parent and its last key. -/
def splitKey (k : List String) : List String × String :=
  (k.dropLast, k.getLast?.getD "")

/-- Reads a date, a time, a number, or a word for a special float. -/
def scalar (cs : List Char) : Except String (Value × List Char) :=
  match dateTime cs with
  | some (valid, text, rest) =>
    if valid then .ok (.datetime (String.ofList text), rest) else .error "Invalid date or datetime"
  | none =>
    match time cs with
    | some (text, rest) => .ok (.datetime (String.ofList text), rest)
    | none =>
      match number cs with
      | some (.ok v, rest) => .ok (v, rest)
      | some (.error e, _) => .error e
      | none =>
        match specialFloat cs with
        | some (v, rest) => .ok (v, rest)
        | none => .error "Invalid value"

mutual

/-- Reads a value. -/
def value (cs : List Char) : Except String (Value × List Char) :=
  match cs with
  | '"' :: '"' :: '"' :: r => do
    let (s, rest) ← multilineBasic r
    pure (.string s, rest)
  | '"' :: r => do
    let (body, rest) ← basicBody false [] r
    pure (.string (String.ofList body), rest)
  | '\'' :: '\'' :: '\'' :: r => do
    let (s, rest) ← multilineLiteral r
    pure (.string s, rest)
  | '\'' :: r => do
    let (s, rest) ← literalString r
    pure (.string s, rest)
  | 't' :: 'r' :: 'u' :: 'e' :: r => .ok (.boolean true, r)
  | 'f' :: 'a' :: 'l' :: 's' :: 'e' :: r => .ok (.boolean false, r)
  | '[' :: r => array r
  | '\x7b' :: r => inlineTable r
  | _ => scalar cs
termination_by 4 * cs.length + 1

/-- Reads an array after its opening bracket. -/
def array (cs : List Char) : Except String (Value × List Char) := do
  let r ← skipArraySpace cs
  match r with
  | ']' :: after => pure (.array [], after)
  | _ => if r.length ≤ cs.length then arrayItems [] r else .error "Unclosed array"
termination_by 4 * cs.length + 3

/-- Reads the items of an array from its next item on; `acc` holds the items before, the last
first. -/
def arrayItems (acc : List Value) (cs : List Char) : Except String (Value × List Char) := do
  let (v, r) ← value cs
  let r ← skipArraySpace r
  match r with
  | ']' :: after => pure (.array (v :: acc).reverse, after)
  | ',' :: after =>
    let next ← skipArraySpace after
    match next with
    | ']' :: after' => pure (.array (v :: acc).reverse, after')
    | _ => if next.length < cs.length then arrayItems (v :: acc) next else .error "Unclosed array"
  | _ => .error "Unclosed array"
termination_by 4 * cs.length + 2

/-- Reads an inline table after its opening brace. -/
def inlineTable (cs : List Char) : Except String (Value × List Char) :=
  match skipSpaces cs with
  | '\x7d' :: after => .ok (.table [], after)
  | r => if r.length ≤ cs.length then inlineEntries [] [] r else .error "Unclosed inline table"
termination_by 4 * cs.length + 3

/-- Reads the entries of an inline table from its next entry on, into the table `t` with the
marks `marks` of what it holds. -/
def inlineEntries (t : Table) (marks : Marks) (cs : List Char) :
    Except String (Value × List Char) := do
  let (k, v, r) ← keyValue cs
  let (parent, stem) := splitKey k
  if marks.has .frozen k then throw "Cannot mutate immutable namespace"
  let t ← t.modifyAt false
    (fun nest => if nest.has stem then .error "Duplicate inline table key" else .ok (nest.put stem v))
    parent
  match skipSpaces r with
  | '\x7d' :: after => pure (.table t, after)
  | ',' :: after =>
    let marks := if v.isContainer then marks.add .frozen true k else marks
    if (skipSpaces after).length < cs.length then inlineEntries t marks (skipSpaces after)
    else .error "Unclosed inline table"
  | _ => .error "Unclosed inline table"
termination_by 4 * cs.length + 2

/-- Reads a key, an equals sign and a value. -/
def keyValue (cs : List Char) : Except String (List String × Value × List Char) := do
  let (k, r) ← key cs
  match r with
  | '=' :: after =>
    if (skipSpaces after).length < cs.length then
      let (v, rest) ← value (skipSpaces after)
      pure (k, v, rest)
    else .error "Expected '=' after a key in a key/value pair"
  | _ => .error "Expected '=' after a key in a key/value pair"
termination_by 4 * cs.length

end

end Calculator.Toml
