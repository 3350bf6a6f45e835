import Calculator.Decimal.Shortest

/-!
How a decimal is laid out as text. A layout decides which magnitudes are written positionally
and which with an exponent, how the exponent is marked and padded, whether a whole number keeps
a point and a zero, and how the values without digits are spelled. The digits themselves come
from `Binary.shortest`.
-/

namespace Calculator.Decimal

/-- The choices that make a decimal into text. A value whose leading digit has the exponent `e`
is written positionally when `positionalFrom ≤ e < positionalBelow`. -/
structure Layout where
  positionalFrom : Int
  positionalBelow : Int
  exponentMark : String
  exponentSignAlways : Bool
  exponentMinDigits : Nat
  pointZero : Bool
  nanText : String
  infinityText : String
  deriving Repr

/-- Pads the decimal digits of `n` with zeros on the left up to `width`. -/
def padDigits (width n : Nat) : String :=
  let ds := Nat.toDigits 10 n
  String.ofList (List.replicate (width - ds.length) '0' ++ ds)

/-- The exponent of the leading digit of a decimal with nonzero digits. -/
def Scientific.leadExponent (d : Scientific) : Int :=
  (digitCount d.digits : Int) - 1 + d.exponent

namespace Layout

/-- Positional text of a decimal: the digits with a point where the exponent puts it. -/
def positional (l : Layout) (d : Scientific) : String :=
  let ds := Nat.toDigits 10 d.digits
  let lead := d.leadExponent
  if lead < 0 then
    "0." ++ String.ofList (List.replicate ((-lead).toNat - 1) '0' ++ ds)
  else
    let whole := lead.toNat + 1
    let intPart := ds.take whole ++ List.replicate (whole - ds.length) '0'
    let fracPart := ds.drop whole
    if fracPart.isEmpty then
      String.ofList intPart ++ (if l.pointZero then ".0" else "")
    else String.ofList intPart ++ "." ++ String.ofList fracPart

/-- Scientific text of a decimal: one digit, the point and the rest, then the exponent. -/
def scientific (l : Layout) (d : Scientific) : String :=
  let ds := Nat.toDigits 10 d.digits
  let lead := d.leadExponent
  let mantissa := match ds with
    | [] => ""
    | [c] => String.singleton c
    | c :: rest => String.singleton c ++ "." ++ String.ofList rest
  let sign := if lead < 0 then "-" else if l.exponentSignAlways then "+" else ""
  mantissa ++ l.exponentMark ++ sign ++ padDigits l.exponentMinDigits lead.natAbs

/-- The text of a nonzero decimal, without its sign. -/
def digitsText (l : Layout) (d : Scientific) : String :=
  let lead := d.leadExponent
  if l.positionalFrom ≤ lead ∧ lead < l.positionalBelow then l.positional d else l.scientific d

/-- The text of a double under this layout. -/
def render (l : Layout) : Parts → String
  | .nan => l.nanText
  | .infinite negative => (if negative then "-" else "") ++ l.infinityText
  | .zero negative =>
    (if negative then "-" else "") ++ "0" ++ (if l.pointZero then ".0" else "")
  | .finite negative b => (if negative then "-" else "") ++ l.digitsText b.shortest

end Layout

end Calculator.Decimal
