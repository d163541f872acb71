/-!
# Powers of two and of ten

Natural powers of the two bases that decimals and doubles are written in.
-/

namespace Formulary

/-- Ten to a natural power. -/
def tenTo (exponent : Nat) : Nat :=
  Nat.pow 10 exponent

/-- Two to a natural power. -/
def twoTo (exponent : Nat) : Nat :=
  Nat.pow 2 exponent

@[simp]
theorem tenTo_zero : tenTo 0 = 1 :=
  rfl

theorem tenTo_succ (exponent : Nat) :
    tenTo (exponent + 1) = tenTo exponent * 10 :=
  rfl

theorem tenTo_add (first second : Nat) :
    tenTo (first + second) = tenTo first * tenTo second :=
  Nat.pow_add 10 first second

/-- A power of ten by the one at a higher exponent. -/
theorem tenTo_sub_mul
    {exponent top : Nat}
    (below : exponent ≤ top) :
    tenTo (top - exponent) * tenTo exponent = tenTo top := by
  rw [← tenTo_add, Nat.sub_add_cancel below]

theorem tenTo_pos (exponent : Nat) : 0 < tenTo exponent :=
  Nat.pow_pos (by decide)

end Formulary
