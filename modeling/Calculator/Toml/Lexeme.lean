import Calculator.Toml.Value
import Calculator.Decimal.Read

/-!
The lexical pieces of TOML: blanks and comments, keys, the four kinds of string, numbers,
dates and times. Each reader takes the characters at the front of the text and returns what
they mean together with the rest, or fails.

Within a line, spaces and tabs are blank. Control characters are refused in comments and
strings, except a tab, and a line feed in the strings that span lines. A number is a decimal
integer with an optional sign and no leading zero, a hexadecimal, octal or binary integer, or a
decimal float; an underscore may stand between two digits. A date is `YYYY-MM-DD` and must exist
in the Gregorian calendar; it may be followed by `T`, `t` or a space and a time `HH:MM:SS` with
an optional fraction, and then by `Z` or an offset `±HH:MM`.
-/

namespace Calculator.Toml

/-- A space or a tab. -/
def isSpaceOrTab (c : Char) : Bool :=
  c == ' ' || c == '\t'

/-- A character of a bare key: an ASCII letter or digit, `-` or `_`. -/
def isBareKeyChar (c : Char) : Bool :=
  ('a' ≤ c && c ≤ 'z') || ('A' ≤ c && c ≤ 'Z') || ('0' ≤ c && c ≤ '9') || c == '-' || c == '_'

/-- An ASCII control character. -/
def isControl (c : Char) : Bool :=
  c.toNat < 0x20 || c.toNat == 0x7F

/-- A character refused in a comment or a one-line string. -/
def refusedInLine (c : Char) : Bool :=
  isControl c && c != '\t'

/-- A character refused in a string that spans lines. -/
def refusedInBlock (c : Char) : Bool :=
  isControl c && c != '\t' && c != '\n'

/-- A decimal digit. -/
def isDigit (c : Char) : Bool :=
  '0' ≤ c && c ≤ '9'

/-- A hexadecimal digit. -/
def isHexDigit (c : Char) : Bool :=
  isDigit c || ('a' ≤ c && c ≤ 'f') || ('A' ≤ c && c ≤ 'F')

/-- Skips spaces and tabs. -/
def skipSpaces (cs : List Char) : List Char :=
  cs.dropWhile isSpaceOrTab

/-- Skips spaces, tabs and line feeds. -/
def skipSpacesAndLines (cs : List Char) : List Char :=
  cs.dropWhile fun c => isSpaceOrTab c || c == '\n'

/-- Skips a comment up to the end of its line, refusing control characters in it. -/
def skipComment : List Char → Except String (List Char)
  | '#' :: rest =>
    if (rest.takeWhile (· != '\n')).any refusedInLine then .error "Found invalid character"
    else .ok (rest.dropWhile (· != '\n'))
  | cs => .ok cs

/-- Skips blanks, line feeds and comments, as between the items of an array. -/
def skipArraySpace (cs : List Char) : Except String (List Char) := do
  let after ← skipComment (skipSpacesAndLines cs)
  if after.length < cs.length then skipArraySpace after else pure after
termination_by cs.length

/-! ### Strings -/

/-- The value of a list of hexadecimal digits. -/
def hexValue (ds : List Char) : Nat :=
  ds.foldl (fun n d =>
    16 * n + if isDigit d then d.toNat - 48 else if d ≤ 'F' then d.toNat - 55 else d.toNat - 87) 0

/-- Reads the `n` hex digits of a `\u` or `\U` escape, which must name a Unicode scalar value. -/
def unicodeEscape (n : Nat) (cs : List Char) : Except String (List Char × List Char) :=
  let ds := cs.take n
  if ds.length != n || !ds.all isHexDigit then .error "Invalid hex value"
  else
    let v := hexValue ds
    if v ≤ 0xD7FF || (0xE000 ≤ v && v ≤ 0x10FFFF) then .ok ([Char.ofNat v], cs.drop n)
    else .error "Escaped character is not a Unicode scalar value"

/-- Reads an escape after its backslash: the characters it stands for, and the rest. In a string
that spans lines, a backslash at the end of a line drops the line break and the blanks after it. -/
def escape (multiline : Bool) : List Char → Except String (List Char × List Char)
  | 'b' :: r => .ok (['\x08'], r)
  | 't' :: r => .ok (['\t'], r)
  | 'n' :: r => .ok (['\n'], r)
  | 'f' :: r => .ok (['\x0c'], r)
  | 'r' :: r => .ok (['\r'], r)
  | '"' :: r => .ok (['"'], r)
  | '\\' :: r => .ok (['\\'], r)
  | 'u' :: r => unicodeEscape 4 r
  | 'U' :: r => unicodeEscape 8 r
  | c :: r =>
    if multiline && isSpaceOrTab c then
      match skipSpaces r with
      | [] => .ok ([], [])
      | '\n' :: after => .ok ([], skipSpacesAndLines after)
      | _ => .error "Unescaped '\\' in a string"
    else if multiline && c == '\n' then .ok ([], skipSpacesAndLines r)
    else .error "Unescaped '\\' in a string"
  | [] => .error "Unescaped '\\' in a string"

/-- Reads the body of a basic string after its opening quotes, up to the closing quotes: the
characters it stands for (the last first in `acc`) and the rest after the closing quotes. -/
def basicBody (multiline : Bool) (acc : List Char) (cs : List Char) :
    Except String (List Char × List Char) :=
  match cs with
  | [] => .error "Unterminated string"
  | '"' :: rest =>
    if !multiline then .ok (acc.reverse, rest)
    else if rest.take 2 == ['"', '"'] then .ok (acc.reverse, rest.drop 2)
    else basicBody multiline ('"' :: acc) rest
  | '\\' :: rest =>
    match escape multiline rest with
    | .error e => .error e
    | .ok (chars, after) =>
      if after.length ≤ rest.length then basicBody multiline (chars.reverse ++ acc) after
      else .error "Unterminated string"
  | c :: rest =>
    if (if multiline then refusedInBlock c else refusedInLine c) then .error "Illegal character"
    else basicBody multiline (c :: acc) rest
termination_by cs.length

/-- Reads a literal string after its opening quote: everything up to the next quote. -/
def literalString (cs : List Char) : Except String (String × List Char) :=
  let body := cs.takeWhile (· != '\'')
  match cs.dropWhile (· != '\'') with
  | [] => .error "Expected a closing quote"
  | _ :: rest =>
    if body.any refusedInLine then .error "Found invalid character" else .ok (String.ofList body, rest)

/-- Splits a text at the first three quotes `q` in a row: what comes before and after them. -/
def splitAtTriple (q : Char) : List Char → Option (List Char × List Char)
  | a :: tail@(b :: c :: rest) =>
    if a == q && b == q && c == q then some ([], rest)
    else (splitAtTriple q tail).map fun (x, r) => (a :: x, r)
  | _ => none

/-- After the closing quotes of a string that spans lines, one or two more quotes belong to the
body. -/
def extraQuotes (q : Char) (body : List Char) : List Char → List Char × List Char
  | c :: rest =>
    if c == q then
      match rest with
      | d :: rest' => if d == q then (body ++ [q, q], rest') else (body ++ [q], rest)
      | [] => (body ++ [q], [])
    else (body, c :: rest)
  | [] => (body, [])

/-- Drops the line break right after the opening quotes of a string that spans lines. -/
def dropFirstLineBreak : List Char → List Char
  | '\n' :: rest => rest
  | cs => cs

/-- Reads a literal string that spans lines, after its opening quotes. -/
def multilineLiteral (cs : List Char) : Except String (String × List Char) :=
  match splitAtTriple '\'' (dropFirstLineBreak cs) with
  | none => .error "Expected the closing quotes"
  | some (body, rest) =>
    if body.any refusedInBlock then .error "Found invalid character"
    else
      let (body, rest) := extraQuotes '\'' body rest
      .ok (String.ofList body, rest)

/-- Reads a basic string that spans lines, after its opening quotes. -/
def multilineBasic (cs : List Char) : Except String (String × List Char) := do
  let (body, rest) ← basicBody true [] (dropFirstLineBreak cs)
  let (body, rest) := extraQuotes '"' body rest
  pure (String.ofList body, rest)

/-! ### Keys -/

/-- Reads one part of a dotted key: a bare key, or a one-line string. -/
def keyPart : List Char → Except String (String × List Char)
  | c :: rest =>
    if isBareKeyChar c then
      .ok (String.ofList (c :: rest.takeWhile isBareKeyChar), rest.dropWhile isBareKeyChar)
    else if c == '\'' then literalString rest
    else if c == '"' then do
      let (body, r) ← basicBody false [] rest
      pure (String.ofList body, r)
    else .error "Invalid initial character for a key part"
  | [] => .error "Invalid initial character for a key part"

/-- Reads the further parts of a dotted key, each after a dot, with blanks around the dots. -/
def keyTail (acc : List String) : List Char → Except String (List String × List Char)
  | '.' :: rest => do
    let (part, r) ← keyPart (skipSpaces rest)
    if (skipSpaces r).length ≤ rest.length then keyTail (acc ++ [part]) (skipSpaces r)
    else .error "Invalid key"
  | cs => .ok (acc, cs)
termination_by cs => cs.length

/-- Reads a dotted key and the blanks after it. -/
def key (cs : List Char) : Except String (List String × List Char) := do
  let (first, r) ← keyPart cs
  keyTail [first] (skipSpaces r)

/-! ### Numbers -/

/-- Reads the rest of a run of digits of a class after its first digit; an underscore counts when
a digit follows it. Returns the run (the last first in `acc`) and the rest. -/
def runTail (p : Char → Bool) (acc : List Char) : List Char → List Char × List Char
  | c :: rest =>
    if p c then runTail p (c :: acc) rest
    else if c == '_' then
      match rest with
      | d :: rest' => if p d then runTail p (d :: '_' :: acc) rest' else (acc.reverse, c :: rest)
      | [] => (acc.reverse, [c])
    else (acc.reverse, c :: rest)
  | [] => (acc.reverse, [])

/-- Reads a run of digits of a class with single underscores between them, if a digit comes
first. -/
def digitRun (p : Char → Bool) : List Char → Option (List Char × List Char)
  | c :: rest => if p c then some (runTail p [c] rest) else none
  | [] => none

/-- The value of digits in a radix, underscores skipped. -/
def radixValue (radix : Nat) (ds : List Char) : Nat :=
  (ds.filter (· != '_')).foldl (fun n d => radix * n + hexValue [d]) 0

/-- Reads an integer with a radix prefix: `0x`, `0o` or `0b`. -/
def prefixedInteger : List Char → Option (Value × List Char)
  | '0' :: 'x' :: r => (digitRun isHexDigit r).map fun (ds, rest) => (.integer (radixValue 16 ds), rest)
  | '0' :: 'o' :: r =>
    (digitRun (fun c => '0' ≤ c && c ≤ '7') r).map fun (ds, rest) => (.integer (radixValue 8 ds), rest)
  | '0' :: 'b' :: r =>
    (digitRun (fun c => c == '0' || c == '1') r).map fun (ds, rest) => (.integer (radixValue 2 ds), rest)
  | _ => none

/-- Reads the whole part of a decimal number: `0`, or digits that do not start with `0`. -/
def wholePart : List Char → Option (List Char × List Char)
  | '0' :: rest => some (['0'], rest)
  | cs => match cs with
    | c :: _ => if '1' ≤ c && c ≤ '9' then digitRun isDigit cs else none
    | [] => none

/-- Reads an optional fraction: a point and digits. -/
def fractionPart : List Char → List Char × List Char
  | '.' :: rest =>
    match digitRun isDigit rest with
    | some (ds, after) => ('.' :: ds, after)
    | none => ([], '.' :: rest)
  | cs => ([], cs)

/-- Reads an optional exponent: `e` or `E`, an optional sign, and digits. -/
def exponentPart : List Char → List Char × List Char
  | e :: rest =>
    if e == 'e' || e == 'E' then
      let (sign, afterSign) := match rest with
        | '+' :: r => (['+'], r)
        | '-' :: r => (['-'], r)
        | r => ([], r)
      match digitRun isDigit afterSign with
      | some (ds, after) => (e :: sign ++ ds, after)
      | none => ([], e :: rest)
    else ([], e :: rest)
  | [] => ([], [])

/-- Reads a decimal number: an integer when it has neither fraction nor exponent, and a float
otherwise. -/
def decimalNumber (cs : List Char) : Option (Except String Value × List Char) :=
  let (sign, body) := match cs with
    | '+' :: r => (['+'], r)
    | '-' :: r => (['-'], r)
    | r => ([], r)
  match wholePart body with
  | none => none
  | some (whole, afterWhole) =>
    let (fraction, afterFraction) := fractionPart afterWhole
    let (exponent, rest) := exponentPart afterFraction
    if fraction.isEmpty && exponent.isEmpty then
      let n : Int := radixValue 10 whole
      some (.ok (.integer (if sign == ['-'] then -n else n)), rest)
    else
      match Decimal.readFloat? (String.ofList (sign ++ whole ++ fraction ++ exponent)) with
      | some x => some (.ok (.float x), rest)
      | none => some (.error "Invalid float", rest)

/-- Reads a number: a prefixed integer first, then a decimal number. -/
def number (cs : List Char) : Option (Except String Value × List Char) :=
  match prefixedInteger cs with
  | some (v, rest) => some (.ok v, rest)
  | none => decimalNumber cs

/-- Reads the words for an infinity or not a number, with an optional sign. -/
def specialFloat (cs : List Char) : Option (Value × List Char) :=
  let inf : Float := 1.0 / 0.0
  match cs with
  | 'i' :: 'n' :: 'f' :: rest => some (.float inf, rest)
  | 'n' :: 'a' :: 'n' :: rest => some (.float (0.0 / 0.0), rest)
  | '+' :: 'i' :: 'n' :: 'f' :: rest => some (.float inf, rest)
  | '-' :: 'i' :: 'n' :: 'f' :: rest => some (.float (-inf), rest)
  | '+' :: 'n' :: 'a' :: 'n' :: rest => some (.float (0.0 / 0.0), rest)
  | '-' :: 'n' :: 'a' :: 'n' :: rest => some (.float (0.0 / 0.0), rest)
  | _ => none

/-! ### Dates and times -/

/-- The value of two decimal digits, if both are digits. -/
def twoDigits (a b : Char) : Option Nat :=
  if isDigit a && isDigit b then some (10 * (a.toNat - 48) + (b.toNat - 48)) else none

/-- Reads a time `HH:MM:SS` with an optional fraction of a second. -/
def time : List Char → Option (List Char × List Char)
  | h1 :: h2 :: ':' :: m1 :: m2 :: ':' :: s1 :: s2 :: rest =>
    match twoDigits h1 h2, twoDigits m1 m2, twoDigits s1 s2 with
    | some h, some m, some s =>
      if h ≤ 23 && m ≤ 59 && s ≤ 59 then
        let clock := [h1, h2, ':', m1, m2, ':', s1, s2]
        match rest with
        | '.' :: after =>
          let ds := after.takeWhile isDigit
          if ds.isEmpty then some (clock, rest)
          else some (clock ++ '.' :: ds, after.dropWhile isDigit)
        | _ => some (clock, rest)
      else none
    | _, _, _ => none
  | _ => none

/-- Reads an offset from universal time: `Z`, `z` or `±HH:MM`. -/
def offset : List Char → Option (List Char × List Char)
  | 'Z' :: rest => some (['Z'], rest)
  | 'z' :: rest => some (['z'], rest)
  | sign :: h1 :: h2 :: ':' :: m1 :: m2 :: rest =>
    if sign == '+' || sign == '-' then
      match twoDigits h1 h2, twoDigits m1 m2 with
      | some h, some m =>
        if h ≤ 23 && m ≤ 59 then some ([sign, h1, h2, ':', m1, m2], rest) else none
      | _, _ => none
    else none
  | _ => none

/-- Whether a year is a leap year of the Gregorian calendar. -/
def isLeapYear (y : Nat) : Bool :=
  y % 4 == 0 && (y % 100 != 0 || y % 400 == 0)

/-- The number of days of a month. -/
def daysInMonth (y m : Nat) : Nat :=
  if m == 2 then (if isLeapYear y then 29 else 28)
  else if m == 4 || m == 6 || m == 9 || m == 11 then 30 else 31

/-- Reads a date, optionally with a time and an offset. The result says whether the date exists;
the shape alone decides whether it is read. -/
def dateTime : List Char → Option (Bool × List Char × List Char)
  | y1 :: y2 :: y3 :: y4 :: '-' :: m1 :: m2 :: '-' :: d1 :: d2 :: rest =>
    match twoDigits y1 y2, twoDigits y3 y4, twoDigits m1 m2, twoDigits d1 d2 with
    | some ya, some yb, some m, some d =>
      if 1 ≤ m && m ≤ 12 && 1 ≤ d && d ≤ 31 then
        let year := 100 * ya + yb
        let exists_ := year ≥ 1 && d ≤ daysInMonth year m
        let date := [y1, y2, y3, y4, '-', m1, m2, '-', d1, d2]
        let withTime : Option (List Char × List Char) := match rest with
          | sep :: afterSep =>
            if sep == 'T' || sep == 't' || sep == ' ' then
              (time afterSep).map fun (clock, afterClock) =>
                match offset afterClock with
                | some (zone, afterZone) => (sep :: clock ++ zone, afterZone)
                | none => (sep :: clock, afterClock)
            else none
          | [] => none
        match withTime with
        | some (tail, after) => some (exists_, date ++ tail, after)
        | none => some (exists_, date, rest)
      else none
    | _, _, _, _ => none
  | _ => none

end Calculator.Toml
