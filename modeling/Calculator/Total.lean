/-!
The total of a list of natural numbers, by recursion on the list. Widths of columns, sizes of
trees on a stack and weights of frames are added up with it, and the laws below are what the
termination measures over such lists need: the total of a joined list is the sum of the totals.
-/

namespace Calculator

/-- The sum of a list of natural numbers. -/
def total : List Nat → Nat
  | [] => 0
  | n :: ns => n + total ns

@[simp]
theorem total_nil : total [] = 0 := rfl

@[simp]
theorem total_cons (n : Nat) (ns : List Nat) : total (n :: ns) = n + total ns := rfl

@[simp]
theorem total_append (xs ys : List Nat) : total (xs ++ ys) = total xs + total ys := by
  induction xs with
  | nil => simp
  | cons x xs ih => simp [ih, Nat.add_assoc]

end Calculator
