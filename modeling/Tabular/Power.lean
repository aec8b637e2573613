/-!
# Powers of two and of ten

Widths of integers and significands are measured in powers of two, decimal places in powers of
ten. They have names of their own here, so that one function of natural numbers is meant whatever
else a reader of these modules has open.
-/

namespace Tabular

/-- The `n`-th power of two. -/
def twoTo (n : Nat) : Nat := Nat.pow 2 n

/-- The `n`-th power of ten. -/
def tenTo (n : Nat) : Nat := Nat.pow 10 n

/-- A power of two is positive. -/
theorem twoTo_pos (n : Nat) : 0 < twoTo n := Nat.pow_pos (by decide)

end Tabular
