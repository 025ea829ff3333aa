/-!
# Powers of two and of ten

The two scales between which numbers are converted, on naturals. They are
functions of their own and not the power operator, whose meaning on naturals
depends on which algebraic structures are in scope.
-/

namespace Switchboard

/-- The `n`-th power of two. -/
def pow2 (n : Nat) : Nat := Nat.pow 2 n

/-- The `n`-th power of ten. -/
def pow10 (n : Nat) : Nat := Nat.pow 10 n

end Switchboard
