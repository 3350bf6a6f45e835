/-!
JSON text as the command line writes it: objects with `", "` between members and `": "` after
keys, arrays with `", "` between items, and strings in ASCII only. In a string, a quote and a
backslash are escaped, the usual control characters take their short escapes, and every other
character outside the printable ASCII range is written `\uXXXX` with lowercase hex digits, as
a surrogate pair beyond the basic plane.
-/

namespace Calculator.Text

/-- A JSON value to be written. -/
inductive JsonText where
  | null
  | int (n : Int)
  | str (s : String)
  | arr (items : List JsonText)
  | obj (members : List (String × JsonText))

/-- The `\u` escape of one UTF-16 code unit. -/
def unitEscape (u : Nat) : String :=
  let ds := Nat.toDigits 16 u
  "\\u" ++ String.ofList (List.replicate (4 - ds.length) '0' ++ ds)

/-- How one character is written inside a JSON string. -/
def jsonEscapeChar (c : Char) : String :=
  let n := c.toNat
  if c == '"' then "\\\""
  else if c == '\\' then "\\\\"
  else if c == '\n' then "\\n"
  else if c == '\r' then "\\r"
  else if c == '\t' then "\\t"
  else if c == '\x08' then "\\b"
  else if c == '\x0c' then "\\f"
  else if 0x20 ≤ n && n < 0x7F then String.singleton c
  else if n < 0x10000 then unitEscape n
  else
    let v := n - 0x10000
    unitEscape (0xD800 + v / 0x400) ++ unitEscape (0xDC00 + v % 0x400)

/-- A string in quotes, escaped. -/
def jsonString (s : String) : String :=
  "\"" ++ String.join (s.toList.map jsonEscapeChar) ++ "\""

mutual

/-- The text of a JSON value. -/
def JsonText.render : JsonText → String
  | .null => "null"
  | .int n => toString n
  | .str s => jsonString s
  | .arr items => "[" ++ JsonText.renderItems items ++ "]"
  | .obj members => "\x7b" ++ JsonText.renderMembers members ++ "\x7d"

/-- The items of an array, separated by a comma and a space. -/
def JsonText.renderItems : List JsonText → String
  | [] => ""
  | [x] => x.render
  | x :: rest => x.render ++ ", " ++ JsonText.renderItems rest

/-- The members of an object, separated by a comma and a space. -/
def JsonText.renderMembers : List (String × JsonText) → String
  | [] => ""
  | [(k, v)] => jsonString k ++ ": " ++ v.render
  | (k, v) :: rest => jsonString k ++ ": " ++ v.render ++ ", " ++ JsonText.renderMembers rest

end

end Calculator.Text
