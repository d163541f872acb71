import Formulary.Proofs.Decimal.Units

/-!
# Rounding keeps the order

A decimal has as many fraction digits as its mantissa has room for, so two
ratios that are close to each other may be rounded at different scales.  Where
the larger one has no room at a scale any more, it is rounded at the next one,
and what it is rounded to there is still above every decimal of the scale that
is given up: `le_nearestSize_of_overflow`.

So the sizes that ratios are rounded to are ordered as the ratios are:
`exists_nearestSize_le`.
-/

namespace Formulary

/-! ## Quotients of natural numbers -/

/-- Twice a rounded quotient is off by at most one denominator. -/
theorem divideHalfEven_distance
    (numerator : Nat)
    {denominator : Nat}
    (positive : 0 < denominator) :
    2 * numerator ≤
        2 * (divideHalfEven numerator denominator * denominator) +
          denominator ∧
      2 * (divideHalfEven numerator denominator * denominator) ≤
        2 * numerator + denominator := by
  have split := Nat.div_add_mod' numerator denominator
  have below := Nat.mod_lt numerator positive
  simp only [divideHalfEven]
  split
  · omega
  · split
    · rw [Nat.add_one_mul (numerator / denominator)]
      omega
    · rcases Nat.mod_two_eq_zero_or_one (numerator / denominator) with
        even | odd
      · rw [even, Nat.add_zero]
        omega
      · rw [odd, Nat.add_one_mul (numerator / denominator)]
        omega

/-- Under one denominator the larger numerator has the larger rounded quotient. -/
theorem divideHalfEven_mono
    {numerator numerator' : Nat}
    (le : numerator ≤ numerator')
    {denominator : Nat}
    (positive : 0 < denominator) :
    divideHalfEven numerator denominator ≤
      divideHalfEven numerator' denominator := by
  apply Nat.le_of_not_lt
  intro reversed
  -- Both quotients are off by half at most, so only one numerator could be between them.
  have same : numerator = numerator' := by
    have upper := (divideHalfEven_distance numerator positive).2
    have lower := (divideHalfEven_distance numerator' positive).1
    have apart := Nat.mul_le_mul_right denominator reversed
    rw [Nat.add_one_mul] at apart
    omega
  rw [same] at reversed
  exact Nat.lt_irrefl _ reversed

/-- The larger ratio has the larger rounded quotient. -/
theorem divideHalfEven_le
    {numerator denominator numerator' denominator' : Nat}
    (positive : 0 < denominator)
    (positive' : 0 < denominator')
    (le : numerator * denominator' ≤ numerator' * denominator) :
    divideHalfEven numerator denominator ≤
      divideHalfEven numerator' denominator' := by
  rw [← divideHalfEven_mul_left positive' numerator denominator,
    ← divideHalfEven_mul_left positive numerator' denominator',
    Nat.mul_comm denominator' denominator]
  apply divideHalfEven_mono _ (Nat.mul_pos positive positive')
  rw [Nat.mul_comm denominator', Nat.mul_comm denominator]
  exact le

/-- One digit less is rounded to a tenth, up to half of the last digit. -/
theorem divideHalfEven_mul_ten_le
    (numerator : Nat)
    {denominator : Nat}
    (positive : 0 < denominator) :
    divideHalfEven (numerator * 10) denominator ≤
      divideHalfEven numerator denominator * 10 + 5 := by
  have fine := (divideHalfEven_distance (numerator * 10) positive).2
  have coarse := (divideHalfEven_distance numerator positive).1
  apply Nat.le_of_not_lt
  intro above
  have scaled := Nat.mul_le_mul_right denominator above
  rw [Nat.add_one_mul, Nat.add_mul, Nat.mul_right_comm] at scaled
  omega

/-! ## Sizes of rounded ratios -/

section

variable {numerator denominator numerator' denominator' : Nat}

/-- A ratio without room at scale zero is too large. -/
theorem nearestSize_zero_of_le
    (tooLarge :
      mantissaBound ≤ divideHalfEven (numerator * tenTo 0) denominator) :
    nearestSize numerator denominator 0 = none := by
  rw [tenTo_zero, Nat.mul_one] at tooLarge
  rw [nearestSize]
  exact if_neg (Nat.not_lt_of_le tooLarge)

/-- A ratio without room at a scale is rounded at the next one. -/
theorem nearestSize_succ_of_le
    {top : Nat}
    (tooLarge :
      mantissaBound ≤
        divideHalfEven (numerator * tenTo (top + 1)) denominator) :
    nearestSize numerator denominator (top + 1) =
      nearestSize numerator denominator top := by
  rw [nearestSize]
  exact if_neg (Nat.not_lt_of_le tooLarge)

/-- The mantissa that takes the place of one without room stands for at least as much. -/
theorem le_mul_tenTo_of_overflow
    (positive : 0 < denominator)
    {top : Nat}
    (within : top + 1 ≤ maxScale)
    (overflow :
      mantissaBound ≤
        divideHalfEven (numerator * tenTo (top + 1)) denominator) :
    mantissaBound * tenTo (maxScale - (top + 1)) ≤
      divideHalfEven (numerator * tenTo top) denominator *
        tenTo (maxScale - top) := by
  have exponent : maxScale - top = maxScale - (top + 1) + 1 := by omega
  -- The bound ends in a six, so the digit that is rounded away does not reach it.
  have shortened :
      mantissaBound ≤
        divideHalfEven (numerator * tenTo top) denominator * 10 := by
    have digits :=
      divideHalfEven_mul_ten_le (numerator * tenTo top) positive
    rw [Nat.mul_assoc, ← tenTo_succ] at digits
    have reached := Nat.le_trans overflow digits
    simp only [mantissaBound] at reached ⊢
    omega
  rw [exponent, tenTo_succ, Nat.mul_comm _ 10, ← Nat.mul_assoc]
  exact Nat.mul_le_mul_right _ shortened

/-- Without room at a scale, a ratio is rounded to more than the mantissas of that scale. -/
theorem le_nearestSize_of_overflow
    (positive : 0 < denominator)
    {top size : Nat}
    (within : top + 1 ≤ maxScale)
    (overflow :
      mantissaBound ≤
        divideHalfEven (numerator * tenTo (top + 1)) denominator)
    (found : nearestSize numerator denominator top = some size) :
    mantissaBound * tenTo (maxScale - (top + 1)) ≤ size := by
  have next := le_mul_tenTo_of_overflow positive within overflow
  induction top generalizing size with
  | zero =>
      by_cases room :
        divideHalfEven (numerator * tenTo 0) denominator < mantissaBound
      · rw [nearestSize_of_lt room] at found
        rw [← Option.some.inj found]
        exact next
      · rw [nearestSize_zero_of_le (Nat.le_of_not_lt room)] at found
        cases found
  | succ top hypothesis =>
      by_cases room :
        divideHalfEven (numerator * tenTo (top + 1)) denominator <
          mantissaBound
      · rw [nearestSize_of_lt room] at found
        rw [← Option.some.inj found]
        exact next
      · have overflow := Nat.le_of_not_lt room
        have within := Nat.le_of_succ_le within
        rw [nearestSize_succ_of_le overflow] at found
        have further :=
          hypothesis within overflow found
            (le_mul_tenTo_of_overflow positive within overflow)
        apply Nat.le_trans _ further
        apply Nat.mul_le_mul_left
        exact Nat.pow_le_pow_right (by decide) (by omega)

/-- The smaller ratio is rounded to the smaller size, if the larger one is not too large. -/
theorem exists_nearestSize_le
    (positive : 0 < denominator)
    (positive' : 0 < denominator')
    (le : numerator * denominator' ≤ numerator' * denominator)
    {top size' : Nat}
    (within : top ≤ maxScale)
    (found : nearestSize numerator' denominator' top = some size') :
    ∃ size, nearestSize numerator denominator top = some size ∧ size ≤ size' := by
  have mantissas (scale : Nat) :
      divideHalfEven (numerator * tenTo scale) denominator ≤
        divideHalfEven (numerator' * tenTo scale) denominator' := by
    apply divideHalfEven_le positive positive'
    rw [Nat.mul_right_comm, Nat.mul_right_comm numerator']
    exact Nat.mul_le_mul_right _ le
  -- Where the larger ratio has room, so has the smaller one.
  have sameScale
      {scale : Nat}
      (room' :
        divideHalfEven (numerator' * tenTo scale) denominator' < mantissaBound)
      (found : nearestSize numerator' denominator' scale = some size') :
      ∃ size,
        nearestSize numerator denominator scale = some size ∧
          size ≤ size' := by
    have room := Nat.lt_of_le_of_lt (mantissas scale) room'
    rw [nearestSize_of_lt room'] at found
    rw [nearestSize_of_lt room, ← Option.some.inj found]
    exact ⟨_, rfl, Nat.mul_le_mul_right _ (mantissas scale)⟩
  induction top with
  | zero =>
      by_cases room' :
        divideHalfEven (numerator' * tenTo 0) denominator' < mantissaBound
      · exact sameScale room' found
      · rw [nearestSize_zero_of_le (Nat.le_of_not_lt room')] at found
        cases found
  | succ top hypothesis =>
      by_cases room' :
        divideHalfEven (numerator' * tenTo (top + 1)) denominator' <
          mantissaBound
      · exact sameScale room' found
      · have overflow' := Nat.le_of_not_lt room'
        rw [nearestSize_succ_of_le overflow'] at found
        by_cases room :
          divideHalfEven (numerator * tenTo (top + 1)) denominator <
            mantissaBound
        · rw [nearestSize_of_lt room]
          refine ⟨_, rfl, ?_⟩
          apply Nat.le_trans (Nat.mul_le_mul_right _ (Nat.le_of_lt room))
          exact le_nearestSize_of_overflow positive' within overflow' found
        · rw [nearestSize_succ_of_le (Nat.le_of_not_lt room)]
          exact hypothesis (Nat.le_of_succ_le within) found

end

end Formulary
