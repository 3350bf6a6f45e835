/-!
The parts of an IEEE 754 double. A finite nonzero double is `mantissa · 2 ^ exponent` with a
mantissa below `2 ^ 53`; the values that read back as it form an interval around it, which is
narrower below when the mantissa is the least of its binade.
-/

namespace Calculator.Decimal

/-- A positive finite double as `mantissa · 2 ^ exponent`. `narrowBelow` says that the gap to
the next smaller double is half the gap to the next larger one. -/
structure Binary where
  mantissa : Nat
  exponent : Int
  narrowBelow : Bool
  deriving Repr, DecidableEq

/-- What a double is: not a number, an infinity, a zero, or a finite nonzero value, each
with its sign where it has one. -/
inductive Parts where
  | nan
  | infinite (negative : Bool)
  | zero (negative : Bool)
  | finite (negative : Bool) (value : Binary)
  deriving Repr, DecidableEq

/-- Splits the 64 bits of a double into sign, biased exponent and fraction. -/
def Parts.ofBits (bits : UInt64) : Parts :=
  let negative := bits >>> 63 == 1
  let biased := ((bits >>> 52) &&& 0x7FF).toNat
  let fraction := (bits &&& 0xFFFFFFFFFFFFF).toNat
  if biased == 0x7FF then
    if fraction == 0 then .infinite negative else .nan
  else if biased == 0 then
    if fraction == 0 then .zero negative
    else .finite negative ⟨fraction, -1074, false⟩
  else
    .finite negative ⟨fraction + Nat.pow 2 52, (biased : Int) - 1075, fraction == 0 && biased > 1⟩

/-- The whole number that a positive double equals, if it equals one. -/
def Binary.whole? (b : Binary) : Option Nat :=
  if 0 ≤ b.exponent then some (b.mantissa * Nat.pow 2 b.exponent.toNat)
  else if b.mantissa % Nat.pow 2 b.exponent.natAbs = 0 then
    some (b.mantissa / Nat.pow 2 b.exponent.natAbs)
  else none

/-- The parts of a double. -/
def Parts.ofFloat (x : Float) : Parts :=
  Parts.ofBits x.toBits

end Calculator.Decimal
