import Calculator.Text.Blank
import Calculator.Text.DecimalDigit

/-!
Reading a number literal as a double. A literal is a decimal numeral with an optional sign, point
and exponent, or one of the words `inf`, `infinity` and `nan` in any case, with an optional sign.
Before it is read:

* a non-ASCII decimal digit of any script stands for its ASCII digit and a non-ASCII blank for a
  space, while any other non-ASCII character spoils the literal;
* an underscore may separate two digits and is then dropped;
* ASCII blanks around the literal are ignored.

The numeral is rounded to the nearest double, ties to even; an exponent beyond `1100000000`
counts as that bound.
-/

namespace Calculator.Decimal

open Calculator.Text

/-- The ASCII character that a literal's character stands for, if any. -/
def asciiOf (c : Char) : Option Char :=
  if c.toNat < 127 then some c
  else if isBlank c then some ' '
  else (decimalValue? c).map fun d => Char.ofNat (48 + d)

/-- Whether every underscore stands between two digits. `previous` is the character before. -/
def separatorsValid (previous : Char) : List Char → Bool
  | [] => previous != '_'
  | c :: rest =>
    (if c == '_' then previous.isDigit else previous != '_' || c.isDigit) &&
      separatorsValid c rest

/-- The value of a list of ASCII digits. -/
def digitValue (ds : List Char) : Nat :=
  ds.foldl (fun n d => 10 * n + (d.toNat - 48)) 0

/-- What a decimal numeral says: its sign, its digits and the power of ten they are scaled by. -/
structure Numeral where
  negative : Bool
  digits : Nat
  exponent : Int
  deriving Repr, DecidableEq

/-- A literal that reads: a numeral, an infinity or not a number. -/
inductive Literal where
  | numeral (n : Numeral)
  | infinity (negative : Bool)
  | nan
  deriving Repr, DecidableEq

/-- The largest exponent a numeral is read with. -/
def exponentBound : Nat := 1100000000

/-- Reads an exponent's digits: the bound stands for more than nine significant digits or a
value beyond it. -/
def exponentValue (ds : List Char) : Nat :=
  let significant := ds.dropWhile (· == '0')
  if significant.length > 9 then exponentBound else min (digitValue significant) exponentBound

/-- Splits off the sign of a numeral or word: whether it is negative, and the rest. -/
def splitSign : List Char → Bool × List Char
  | '-' :: rest => (true, rest)
  | '+' :: rest => (false, rest)
  | cs => (false, cs)

/-- Reads the exponent part that follows the digits, when it has at least one digit. Returns the
signed exponent and what is left; no exponent leaves the text as it is. -/
def readExponent : List Char → Int × List Char
  | c :: rest =>
    if c == 'e' || c == 'E' then
      let (negative, afterSign) := splitSign rest
      let ds := afterSign.takeWhile Char.isDigit
      if ds.isEmpty then (0, c :: rest)
      else
        let v := (exponentValue ds : Int)
        (if negative then -v else v, afterSign.dropWhile Char.isDigit)
    else (0, c :: rest)
  | [] => (0, [])

/-- Reads a whole decimal numeral, or fails. -/
def readNumeral (cs : List Char) : Option Numeral :=
  let (negative, body) := splitSign cs
  let whole := body.takeWhile Char.isDigit
  let afterWhole := body.dropWhile Char.isDigit
  let (frac, afterFrac) := match afterWhole with
    | '.' :: rest => (rest.takeWhile Char.isDigit, rest.dropWhile Char.isDigit)
    | rest => ([], rest)
  if whole.isEmpty && frac.isEmpty then none
  else
    let (exponent, rest) := readExponent afterFrac
    if rest.isEmpty then
      some ⟨negative, digitValue (whole ++ frac), exponent - frac.length⟩
    else none

/-- Reads one of the words for an infinity or not a number, in any case, or fails. -/
def readWord (cs : List Char) : Option Literal :=
  let (negative, body) := splitSign cs
  match String.ofList (body.map Char.toLower) with
  | "inf" | "infinity" => some (.infinity negative)
  | "nan" => some .nan
  | _ => none

/-- Reads a literal from its ASCII form, blanks around it already removed. -/
def readLiteral (cs : List Char) : Option Literal :=
  match readNumeral cs with
  | some n => some (.numeral n)
  | none => readWord cs

/-- The double nearest to a numeral, ties to even. -/
def Numeral.toFloat (n : Numeral) : Float :=
  let magnitude :=
    if n.digits = 0 then 0.0
    else if n.exponent < 0 then Float.ofScientific n.digits true n.exponent.natAbs
    else Float.ofScientific n.digits false n.exponent.natAbs
  if n.negative then -magnitude else magnitude

/-- The double that a literal reads as. -/
def Literal.toFloat : Literal → Float
  | .numeral n => n.toFloat
  | .infinity negative => if negative then -(1.0 / 0.0) else 1.0 / 0.0
  | .nan => 0.0 / 0.0

/-- Reads a number literal, or fails when it is not one. -/
def readFloat? (text : String) : Option Float := do
  let ascii ← text.toList.mapM asciiOf
  if !separatorsValid (Char.ofNat 0) ascii then none
  let trimmed := trimAsciiBlanks (ascii.filter (· != '_'))
  let literal ← readLiteral trimmed
  pure literal.toFloat

end Calculator.Decimal
