import Calculator.Toml.Inline

/-!
Reading a TOML document: a sequence of lines, each blank, a comment, a key with its value, a
table header `[key]` or an array-of-tables header `[[key]]`, each optionally followed by a
comment. Line breaks `\r\n` count as `\n`.

A document defines each table once. A header may not name a table that a header or a dotted key
has defined, nor a value that is not a table; a dotted key may not reach into a table defined by
a header, nor into an inline table or array; no key gets two values. A dotted key defines its
tables for the rest of the current section only, so they become closed to headers from the next
header on. An array-of-tables header starts a new table at the end of the array, in which every
key is free again.
-/

namespace Calculator.Toml

/-- What has been read of a document so far. -/
structure Reader where
  root : Table := []
  marks : Marks := []
  /-- Tables defined by dotted keys in the current section: closed to headers from the next
  header on. -/
  pending : List (List String) := []
  /-- The key of the current section's table. -/
  header : List String := []

namespace Reader

/-- Closes the tables that dotted keys defined in the section that ends. -/
def closeSection (rd : Reader) : Reader :=
  { rd with marks := rd.pending.foldl (fun m k => m.add .declared false k) rd.marks, pending := [] }

/-- Adds a key with its value to the current section. -/
def addEntry (rd : Reader) (k : List String) (v : Value) : Except String Reader := do
  let (parent, stem) := splitKey k
  let containers := (List.range (k.length - 1)).map fun i => rd.header ++ k.take (i + 1)
  if containers.any (rd.marks.has .declared ·) then throw "Cannot redefine namespace"
  let absParent := rd.header ++ parent
  if rd.marks.has .frozen absParent then throw "Cannot mutate immutable namespace"
  let root ← rd.root.modifyAt true
    (fun nest => if nest.has stem then .error "Cannot overwrite a value" else .ok (nest.put stem v))
    absParent
  let marks := if v.isContainer then rd.marks.add .frozen true (rd.header ++ k) else rd.marks
  pure { rd with root, marks, pending := rd.pending ++ containers }

/-- Opens the section of a table header. -/
def openTable (rd : Reader) (k : List String) : Except String Reader := do
  if rd.marks.has .declared k || rd.marks.has .frozen k then throw "Cannot declare a table twice"
  let marks := rd.marks.add .declared false k
  let root ← rd.root.modifyAt true .ok k
  pure { rd with root, marks, header := k }

/-- Adds a table at the end of the array named by the header, creating the array if need be. -/
def appendTable (k : List String) (root : Table) : Except String Table :=
  let (parent, stem) := splitKey k
  root.modifyAt true
    (fun nest => match nest.get? stem with
      | some (.array items) => .ok (nest.put stem (.array (items ++ [.table []])))
      | some _ => .error "An object other than list found behind this key"
      | none => .ok (nest.put stem (.array [.table []])))
    parent

/-- Opens the section of an array-of-tables header. -/
def openArrayTable (rd : Reader) (k : List String) : Except String Reader := do
  if rd.marks.has .frozen k then throw "Cannot mutate immutable namespace"
  let marks := (rd.marks.clear k).add .declared false k
  let root ← appendTable k rd.root
  pure { rd with root, marks, header := k }

/-- Reads a header after its opening bracket or brackets, up to the closing ones. -/
def readHeader (rd : Reader) (isArray : Bool) (cs : List Char) : Except String (Reader × List Char) := do
  let (k, r) ← key (skipSpaces cs)
  if isArray then
    let rd ← rd.openArrayTable k
    match r with
    | ']' :: ']' :: after => pure (rd, after)
    | _ => throw "Expected ']]' at the end of an array declaration"
  else
    let rd ← rd.openTable k
    match r with
    | ']' :: after => pure (rd, after)
    | _ => throw "Expected ']' at the end of a table declaration"

/-- Reads one statement at the front of a line that does not start blank: a key with its value,
a header, or nothing before a comment. -/
def statement (rd : Reader) (cs : List Char) : Except String (Reader × List Char) :=
  match cs with
  | '[' :: '[' :: r => do
    let (rd, rest) ← rd.closeSection.readHeader true r
    pure (rd, skipSpaces rest)
  | '[' :: r => do
    let (rd, rest) ← rd.closeSection.readHeader false r
    pure (rd, skipSpaces rest)
  | '#' :: _ => pure (rd, cs)
  | c :: _ =>
    if isBareKeyChar c || c == '"' || c == '\'' then do
      let (k, v, rest) ← keyValue cs
      let rd ← rd.addEntry k v
      pure (rd, skipSpaces rest)
    else throw "Invalid statement"
  | [] => pure (rd, [])

/-- Reads the lines of a document. -/
def lines (rd : Reader) (cs : List Char) : Except String Reader :=
  match skipSpaces cs with
  | [] => .ok rd
  | '\n' :: rest => if rest.length < cs.length then lines rd rest else .ok rd
  | start => do
    let (rd, rest) ← rd.statement start
    match ← skipComment rest with
    | [] => pure rd
    | '\n' :: next => if next.length < cs.length then lines rd next else pure rd
    | _ => throw "Expected newline or end of document after a statement"
termination_by cs.length

end Reader

/-- Replaces each carriage return that stands before a line feed by nothing. -/
def normalizeLineBreaks : List Char → List Char
  | '\r' :: '\n' :: rest => '\n' :: normalizeLineBreaks rest
  | c :: rest => c :: normalizeLineBreaks rest
  | [] => []

/-- Reads a TOML document into its root table. -/
def parse (text : String) : Except String Table := do
  let rd ← Reader.lines {} (normalizeLineBreaks text.toList)
  pure rd.root

end Calculator.Toml
