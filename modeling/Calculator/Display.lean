import Calculator.Decimal.Layout

/-!
How the calculator writes numbers. The round-trip text is the shortest decimal that reads
back as the double: positional when the leading digit's exponent lies in `-4 … 15`, and there
with at least one digit after the point; otherwise one digit, the point and the rest, then `e`,
a sign and at least two exponent digits. The display text, shown as a result, writes a whole
number below `10 ^ 16` in magnitude with all its digits and nothing after them, the infinities
as `Infinity` and `-Infinity`, not-a-number as `NaN`, and anything else as the round-trip text.
-/

namespace Calculator

open Calculator.Decimal

/-- The layout of the round-trip text. -/
def roundTripLayout : Layout where
  positionalFrom := -4
  positionalBelow := 16
  exponentMark := "e"
  exponentSignAlways := true
  exponentMinDigits := 2
  pointZero := true
  nanText := "nan"
  infinityText := "inf"

/-- The round-trip text of a double. -/
def roundTripText (x : Float) : String :=
  roundTripLayout.render (Parts.ofFloat x)

/-- The least magnitude whose whole numbers the display writes in exponent form. -/
def displayWholeBound : Nat := Nat.pow 10 16

/-- The display text of a double. -/
def displayText (x : Float) : String :=
  match Parts.ofFloat x with
  | .nan => "NaN"
  | .infinite negative => if negative then "-Infinity" else "Infinity"
  | .zero _ => "0"
  | .finite negative b =>
    match b.whole? with
    | some n =>
      if n < displayWholeBound then (if negative then "-" else "") ++ toString n
      else roundTripText x
    | none => roundTripText x

end Calculator
