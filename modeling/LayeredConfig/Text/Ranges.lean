/-! Sets of code points, written as the ends of their runs in ascending order. -/

namespace LayeredConfig.Text

abbrev Ranges := Array (Nat × Nat)

namespace Ranges

def has (t : Ranges) (c : Char) : Bool := t.any fun r => r.1 ≤ c.toNat && c.toNat ≤ r.2

theorem has_iff (t : Ranges) (c : Char) :
    t.has c = true ↔ ∃ r ∈ t, r.1 ≤ c.toNat ∧ c.toNat ≤ r.2 := by
  simp only [has, Array.any_eq_true', Bool.and_eq_true, decide_eq_true_eq]

end Ranges

end LayeredConfig.Text
