/-!
Closed ranges of code points, the form in which the character tables of this library are kept.
A table is a list of ranges in increasing order; a character belongs to it when one of the
ranges contains its code point.
-/

namespace Calculator.Text

/-- The code points from `lo` to `hi`, both included. -/
structure CodeRange where
  lo : Nat
  hi : Nat
  deriving Repr, DecidableEq

namespace CodeRange

/-- Whether the range holds the code point `n`. -/
def contains (r : CodeRange) (n : Nat) : Bool :=
  r.lo ≤ n && n ≤ r.hi

/-- Whether some range of the table holds the code point `n`. -/
def anyContains (table : List CodeRange) (n : Nat) : Bool :=
  table.any (·.contains n)

theorem anyContains_iff (table : List CodeRange) (n : Nat) :
    anyContains table n = true ↔ ∃ r ∈ table, r.lo ≤ n ∧ n ≤ r.hi := by
  simp [anyContains, contains]

end CodeRange

end Calculator.Text
