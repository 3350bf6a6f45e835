import Calculator.Decimal.Binary

/-!
The shortest decimal that reads back as a given double. A decimal reads back as the double when
it lies in the interval of reals that round to it; the ends of the interval belong to it exactly
when the mantissa is even, since a tie is rounded to the even mantissa. For one, two, three and
more significant digits we look at the two neighbours of the value on the grid of decimals with
that many digits: the first count at which a neighbour lies in the interval wins, and of two such
neighbours the nearer one. All comparisons are exact, in natural numbers.
-/

namespace Calculator.Decimal

/-- A decimal number in scientific form, `digits · 10 ^ exponent`. -/
structure Scientific where
  digits : Nat
  exponent : Int
  deriving Repr, DecidableEq

/-- The number of decimal digits of a natural number; zero has one. -/
def digitCount (n : Nat) : Nat :=
  (Nat.toDigits 10 n).length

/-- Drops the zeros at the end of the digits, raising the exponent to keep the value. -/
def Scientific.trim (d : Scientific) : Scientific :=
  if h : d.digits ≠ 0 ∧ d.digits % 10 = 0 then
    Scientific.trim ⟨d.digits / 10, d.exponent + 1⟩
  else d
termination_by d.digits
decreasing_by exact Nat.div_lt_self (Nat.pos_of_ne_zero h.1) (by decide)

/-- The interval of a double in exact arithmetic: with `value = scaled / 4 · 10 ^ -places`, the
reals that round to the double are those between `low` and `high` (on the same scale). -/
structure Interval where
  places : Nat
  scaled : Nat
  low : Nat
  high : Nat
  closed : Bool

/-- The interval of reals that round to a positive double. -/
def Binary.interval (b : Binary) : Interval :=
  let places := (-b.exponent).toNat
  -- one unit of the mantissa, counted in steps of `10 ^ -places`
  let unit := if 0 ≤ b.exponent then Nat.pow 2 b.exponent.toNat else Nat.pow 5 places
  { places
    scaled := 4 * b.mantissa * unit
    low := (4 * b.mantissa - (if b.narrowBelow then 1 else 2)) * unit
    high := (4 * b.mantissa + 2) * unit
    closed := b.mantissa % 2 == 0 }

/-- Whether `c · 10 ^ -places` reads back as the double. -/
def Interval.admits (i : Interval) (c : Nat) : Bool :=
  if i.closed then i.low ≤ 4 * c && 4 * c ≤ i.high
  else i.low < 4 * c && 4 * c < i.high

/-- The best decimal with `precision` significant digits that reads back, if one does. The value
has `total` digits in steps of `10 ^ -places`, and `precision ≤ total`. -/
def Interval.bestAt (i : Interval) (total precision : Nat) : Option Scientific :=
  let step := Nat.pow 10 (total - precision)
  let value := i.scaled / 4
  let below := value / step * step
  let above := below + step
  let exponent : Int := ((total - precision : Nat) : Int) - i.places
  let pick (c : Nat) : Scientific := ⟨c / step, exponent⟩
  match i.admits below, i.admits above with
  | true, true =>
    let fromBelow := i.scaled - 4 * below
    let fromAbove := 4 * above - i.scaled
    if fromBelow < fromAbove then some (pick below)
    else if fromAbove < fromBelow then some (pick above)
    else if (below / step) % 2 == 0 then some (pick below) else some (pick above)
  | true, false => some (pick below)
  | false, true => some (pick above)
  | false, false => none

/-- The shortest decimal that reads back as the positive double `b`, the nearest of those, with
no zero at the end of its digits. -/
def Binary.shortest (b : Binary) : Scientific :=
  let i := b.interval
  let total := digitCount (i.scaled / 4)
  let found := (List.range total).findSome? fun k => i.bestAt total (k + 1)
  (found.getD ⟨i.scaled / 4, -(i.places : Int)⟩).trim

end Calculator.Decimal
