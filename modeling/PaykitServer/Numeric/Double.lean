import Mathlib.Data.Nat.Log
import Mathlib.Tactic.Linarith

/-!
# Whole numbers as doubles

A double has 53 significant bits, so a larger whole number is rounded to a multiple of a
power of two, ties to the even one. It is written with as few digits as lead back to it:
the rest of its digits are zeros. Below `2 ^ 53` a number is written as it is.
-/

namespace Numeric.Double

/-- The quotient rounded to the nearest whole number, ties to the even one. -/
def halfEven (n unit : Nat) : Nat :=
  if 2 * (n % unit) < unit ∨ 2 * (n % unit) = unit ∧ n / unit % 2 = 0 then n / unit
  else n / unit + 1

/-- The double nearest to a whole number. -/
def nearest (n : Nat) : Nat :=
  let unit := 2 ^ (n.log2 - 52)
  halfEven n unit * unit

/-- The two multiples of a unit next to a number, the nearer one first. -/
def multiples (x unit : Nat) : List Nat :=
  let nearer := halfEven x unit * unit
  [nearer, if nearer ≤ x then nearer + unit else nearer - unit]

/-- The number that is written for a whole number of at most twenty digits: the first that
leads back to its double, tried from the most zeros at the end to none. -/
def written (n : Nat) : Nat :=
  let double := nearest n
  (((List.range 20).reverse.flatMap fun zeros => multiples double (10 ^ zeros)).find?
    (nearest · = double)).getD double

section Small

variable {n unit : Nat}

end Small

end Numeric.Double
