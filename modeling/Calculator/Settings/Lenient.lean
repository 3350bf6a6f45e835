import Calculator.Settings
import Calculator.Toml.Value
import Calculator.Text.Capital
import Calculator.Decimal.Binary

/-!
Reading a setting's value leniently. A whole number may be given as an integer, as a float with
no fraction strictly between `-2 ^ 63` and `2 ^ 63`, as a boolean (one for true, zero for false),
or as a text. A text holds a whole number when it is one in plain form, `-?(0|[1-9][0-9]*)`, or
when it becomes one after these steps: White_Space around it is trimmed, one leading `+` is
dropped, leading zeros are dropped, a point followed by zeros only is dropped with them, and
underscores that follow a digit are dropped. A log level is a text whose capitals, with blanks
around them trimmed, name a level.
-/

namespace Calculator

open Calculator.Text Calculator.Decimal

/-- The value of a whole number in plain form: an optional minus sign, then `0` or digits that
do not start with `0`. -/
def plainInt? (cs : List Char) : Option Int :=
  let (negative, body) := match cs with
    | '-' :: rest => (true, rest)
    | rest => (false, rest)
  match body with
  | [] => none
  | first :: more =>
    if !body.all Char.isDigit || (first == '0' && !more.isEmpty) then none
    else
      let n : Int := body.foldl (fun n d => 10 * n + (d.toNat - 48)) 0
      some (if negative then -n else n)

/-- Drops the zeros and underscores that follow a leading zero. What stays starts at the first
other digit, or keeps the character before a point; a text of zeros and underscores keeps its
last character. `previous` is the character before the rest. -/
def dropZeroRun (previous : Char) : List Char → Option (List Char)
  | [] => some [previous]
  | c :: rest =>
    if c == '0' || c == '_' then dropZeroRun c rest
    else if '1' ≤ c && c ≤ '9' then some (c :: rest)
    else if c == '.' then some (previous :: c :: rest)
    else none

/-- Drops leading zeros; a text must start with a digit or a minus sign. -/
def dropLeadingZeros : List Char → Option (List Char)
  | '0' :: rest => dropZeroRun '0' rest
  | c :: rest => if ('1' ≤ c && c ≤ '9') || c == '-' then some (c :: rest) else none
  | [] => none

/-- Drops a point and what follows it, when only zeros follow it. -/
def dropZeroFraction (cs : List Char) : List Char :=
  let before := cs.takeWhile (· != '.')
  match cs.dropWhile (· != '.') with
  | _ :: after => if after.all (· == '0') then before else cs
  | [] => cs

/-- Drops underscores, each of which must follow a digit and none of which may end the text. -/
def dropUnderscores (previous : Option Char) : List Char → Option (List Char)
  | [] => if previous == some '_' then none else some []
  | c :: rest =>
    if c == '_' then
      match previous with
      | some p => if p.isDigit then dropUnderscores (some c) rest else none
      | none => none
    else (dropUnderscores (some c) rest).map (c :: ·)

/-- The text of a whole number after the lenient steps, if they change it. -/
def cleanIntText (raw : List Char) : Option (List Char) := do
  let s := trimWhiteSpace raw
  let s := match s with
    | '+' :: rest => rest
    | rest => rest
  let s ← dropLeadingZeros s
  let s := dropZeroFraction s
  if s.contains '_' then dropUnderscores none s
  else if s.length == raw.length then none
  else some s

/-- The whole number a text holds. -/
def textInt? (s : String) : Option Int :=
  match plainInt? s.toList with
  | some n => some n
  | none => (cleanIntText s.toList).bind plainInt?

/-- The bound that a float must stay strictly within, in magnitude, to count as a whole number. -/
def floatIntBound : Nat := Nat.pow 2 63

/-- The whole number a float holds: finite, with no fraction, strictly within the bound. -/
def floatInt? (x : Float) : Option Int :=
  match Parts.ofFloat x with
  | .zero _ => some 0
  | .finite negative b =>
    match b.whole? with
    | some n => if n < floatIntBound then some (if negative then -(n : Int) else n) else none
    | none => none
  | _ => none

/-- The whole number a setting's value stands for. -/
def Toml.Value.lenientInt? : Toml.Value → Option Int
  | .integer n => some n
  | .boolean b => some (if b then 1 else 0)
  | .float x => floatInt? x
  | .string s => textInt? s
  | _ => none

/-- A nesting limit: a whole number of at least one. -/
def Toml.Value.maxDepth? (v : Toml.Value) : Option { n : Nat // 0 < n } :=
  match v.lenientInt? with
  | some n => if h : 0 < n.toNat then some ⟨n.toNat, h⟩ else none
  | none => none

/-- A log level: a text whose capitals, trimmed, name a level. -/
def Toml.Value.logLevel? : Toml.Value → Option LogLevel
  | .string s => do
    let capitals ← asciiUpper? s
    LogLevel.ofName? (String.ofList (trimBlanks capitals.toList))
  | _ => none

end Calculator
