import Formulary.Decimal.Power

/-!
# Repeated squaring

`Decimal.repeatedSquares` multiplies squares of squares under a product that
may fail, or round.  What holds of its result follows from what holds of one
product: `repeatedSquares_congr` for what two computations have in common, and
`repeatedSquares_outcome` for what the powers of one base have.
-/

namespace Formulary.Decimal

/-- Repeated squaring by its next bit. -/
theorem repeatedSquares_eq
    {Factor : Type}
    (product : Factor → Factor → Option Factor)
    (exponent : Nat)
    (accumulated base : Factor) :
    repeatedSquares product exponent accumulated base =
      if exponent = 0 then
        some accumulated
      else
        (if exponent % 2 = 1 then product accumulated base
          else some accumulated).bind fun accumulated =>
            if exponent < 2 then
              some accumulated
            else
              (product base base).bind fun square =>
                repeatedSquares product (exponent / 2) accumulated square := by
  rw [repeatedSquares]
  split
  · rfl
  · by_cases odd : exponent % 2 = 1
    · rw [if_pos odd, if_pos odd]
      rfl
    · rw [if_neg odd, if_neg odd]
      rfl

/-! ## Two computations -/

/-- A computation respects a view, if its first part does and the rest respects the view of it. -/
theorem map_bind_congr
    {First Last FirstView LastView : Type}
    {firstView : First → FirstView}
    {lastView : Last → LastView}
    {first first' : Option First}
    {rest rest' : First → Option Last}
    (sameFirst : first.map firstView = first'.map firstView)
    (sameRest :
      ∀ value value', firstView value = firstView value' →
        (rest value).map lastView = (rest' value').map lastView) :
    (first.bind rest).map lastView = (first'.bind rest').map lastView := by
  cases first with
  | none =>
      cases first' with
      | none => rfl
      | some value' => cases sameFirst
  | some value =>
      cases first' with
      | none => cases sameFirst
      | some value' => exact sameRest value value' (Option.some.inj sameFirst)

/-- Repeated squaring respects a view of the factors, if their product does. -/
theorem repeatedSquares_congr
    {Factor View : Type}
    {product : Factor → Factor → Option Factor}
    {view : Factor → View}
    (respects :
      ∀ left left' right right',
        view left = view left' → view right = view right' →
          (product left right).map view = (product left' right').map view)
    (exponent : Nat)
    {accumulated accumulated' base base' : Factor}
    (sameAccumulated : view accumulated = view accumulated')
    (sameBase : view base = view base') :
    (repeatedSquares product exponent accumulated base).map view =
      (repeatedSquares product exponent accumulated' base').map view := by
  induction exponent using Nat.strongRecOn generalizing accumulated accumulated' base base' with
  | ind exponent hypothesis =>
      rw [repeatedSquares_eq, repeatedSquares_eq]
      split
      · rw [Option.map_some, Option.map_some, sameAccumulated]
      · rename_i nonzero
        have multiplied :
            (if exponent % 2 = 1 then product accumulated base
              else some accumulated).map view =
              (if exponent % 2 = 1 then product accumulated' base'
                else some accumulated').map view := by
          split
          · exact respects _ _ _ _ sameAccumulated sameBase
          · rw [Option.map_some, Option.map_some, sameAccumulated]
        apply map_bind_congr multiplied
        intro product product' sameProduct
        split
        · rw [Option.map_some, Option.map_some, sameProduct]
        · apply map_bind_congr (respects _ _ _ _ sameBase sameBase)
          intro square square' sameSquare
          have smaller : exponent / 2 < exponent :=
            Nat.div_lt_self (Nat.pos_of_ne_zero nonzero) (by decide)
          exact hypothesis _ smaller sameProduct sameSquare

/-! ## Powers of one base -/

/-- Two powers make up the rest of a power: one of the lowest bit, and one of the square. -/
theorem power_of_bits
    (first second exponent : Nat) :
    first + second * (exponent % 2) + (second + second) * (exponent / 2) =
      first + second * exponent := by
  have bits := Nat.div_add_mod exponent 2
  grind

/--
Outcomes stand for powers of one base, up to `top`.  If a product of two of
them stands for the power with the sum of their exponents, and what failed
once has failed for good, then repeated squaring has the outcome that its
exponent asks for.
-/
theorem repeatedSquares_outcome
    {Factor : Type}
    {product : Factor → Factor → Option Factor}
    {Outcome : Nat → Option Factor → Prop}
    {top : Nat}
    (fails : ∀ first second, Outcome first none → Outcome second none)
    (multiplies :
      ∀ first second left right,
        first + second ≤ top →
        Outcome first (some left) →
        Outcome second (some right) →
          Outcome (first + second) (product left right))
    (exponent : Nat)
    {first second : Nat}
    {accumulated base : Factor}
    (within : first + second * exponent ≤ top)
    (isAccumulated : Outcome first (some accumulated))
    (isBase : Outcome second (some base)) :
    Outcome (first + second * exponent)
      (repeatedSquares product exponent accumulated base) := by
  induction exponent using Nat.strongRecOn
      generalizing first second accumulated base with
  | ind exponent hypothesis =>
      rw [repeatedSquares_eq]
      split
      · rename_i zero
        rw [zero, Nat.mul_zero, Nat.add_zero]
        exact isAccumulated
      · rename_i nonzero
        have bits := power_of_bits first second exponent
        have multiplied :
            Outcome (first + second * (exponent % 2))
              (if exponent % 2 = 1 then product accumulated base
                else some accumulated) := by
          split
          · rename_i odd
            rw [odd, Nat.mul_one] at bits ⊢
            exact multiplies _ _ _ _ (by omega) isAccumulated isBase
          · rename_i even
            rw [Nat.mod_two_ne_one.1 even, Nat.mul_zero, Nat.add_zero]
            exact isAccumulated
        generalize
          (if exponent % 2 = 1 then product accumulated base
            else some accumulated) = result at multiplied ⊢
        cases result with
        | none => exact fails _ _ multiplied
        | some next =>
            rw [Option.bind_some]
            split
            · rename_i small
              have one : exponent = 1 := by omega
              rw [one] at multiplied ⊢
              exact multiplied
            · rename_i large
              have square : second + second ≤ top := by
                have half :
                    second + second ≤ (second + second) * (exponent / 2) :=
                  Nat.le_mul_of_pos_right _ (by omega)
                omega
              have squared := multiplies _ _ _ _ square isBase isBase
              cases result : product base base with
              | none =>
                  rw [result] at squared
                  exact fails _ _ squared
              | some square =>
                  rw [result] at squared
                  rw [Option.bind_some, ← bits]
                  exact
                    hypothesis (exponent / 2)
                      (Nat.div_lt_self (Nat.pos_of_ne_zero nonzero)
                        (by decide))
                      (by rw [bits]; exact within) multiplied squared

section

variable {Factor : Type} {product : Factor → Factor → Option Factor}
  (Power : Nat → Factor → Prop) {exponent : Nat} {one base : Factor}

/-- Whatever the products of powers are, the result of repeated squaring is, if there is one. -/
theorem power_of_repeatedSquares
    (multiplies :
      ∀ first second left right result,
        Power first left → Power second right →
          product left right = some result → Power (first + second) result)
    (isOne : Power 0 one)
    (isBase : Power 1 base)
    {power : Factor}
    (found : repeatedSquares product exponent one base = some power) :
    Power exponent power := by
  have outcome :=
    @repeatedSquares_outcome Factor product
      (fun exponent result => ∀ power, result = some power → Power exponent power)
      (0 + 1 * exponent) (fun _ _ _ _ isSome => nomatch isSome)
      (fun _ _ left right _ isLeft isRight result =>
        multiplies _ _ left right result (isLeft left rfl) (isRight right rfl))
      exponent 0 1 one base (Nat.le_refl _)
      (fun _ same => Option.some.inj same ▸ isOne)
      (fun _ same => Option.some.inj same ▸ isBase)
  rw [Nat.zero_add, Nat.one_mul] at outcome
  exact outcome power found

/-- If powers up to the exponent can be multiplied, repeated squaring has a result. -/
theorem exists_repeatedSquares
    (multiplies :
      ∀ first second left right, first + second ≤ exponent →
        Power first left → Power second right →
          ∃ result, product left right = some result ∧
            Power (first + second) result)
    (isOne : Power 0 one)
    (isBase : Power 1 base) :
    ∃ power, repeatedSquares product exponent one base = some power ∧
      Power exponent power := by
  have step (first second : Nat) (left right : Factor)
      (within : first + second ≤ exponent)
      (isLeft : ∃ power, some left = some power ∧ Power first power)
      (isRight : ∃ power, some right = some power ∧ Power second power) :
      ∃ power, product left right = some power ∧
        Power (first + second) power := by
    rcases isLeft with ⟨power, same, isLeft⟩
    rcases isRight with ⟨power', same', isRight⟩
    cases same
    cases same'
    exact multiplies first second left right within isLeft isRight
  have outcome :=
    @repeatedSquares_outcome Factor product
      (fun exponent result => ∃ power, result = some power ∧ Power exponent power)
      exponent (fun _ _ missing => nomatch missing) step
      exponent 0 1 one base (by omega) ⟨one, rfl, isOne⟩ ⟨base, rfl, isBase⟩
  rw [Nat.zero_add, Nat.one_mul] at outcome
  exact outcome

end

/-! ## Products of wide decimals -/

/-- A product of wide decimals by the parts of its size. -/
theorem Wide.mul?_eq
    (left right : Wide) :
    left.mul? right =
      if left.mantissa = 0 ∨ right.mantissa = 0 then
        some ⟨false, 0, 0⟩
      else
        (if left.mantissa * right.mantissa < twoTo 192 then
            some
              (roundGroups (left.mantissa * right.mantissa)
                (left.scale + right.scale))
          else
            reduce 6 (left.mantissa * right.mantissa)
              (left.scale + right.scale)).map
          fun parts =>
            ⟨left.negative != right.negative, parts.1, parts.2⟩ := by
  rw [Wide.mul?]
  split
  · rfl
  · simp only
    split
    · rfl
    · cases reduce 6 (left.mantissa * right.mantissa)
        (left.scale + right.scale) <;> rfl

/-- A wide decimal is rounded by the parts of its size. -/
theorem Wide.toDecimal?_eq
    (wide : Wide) :
    wide.toDecimal? =
      (if wide.mantissa < mantissaBound ∧ wide.scale ≤ maxScale then
          some (wide.mantissa, wide.scale)
        else
          reduce 3 wide.mantissa wide.scale).bind
        fun parts => ofParts? wide.negative parts.1 parts.2 := by
  rw [Wide.toDecimal?]
  split
  · rfl
  · cases reduce 3 wide.mantissa wide.scale <;> rfl

end Formulary.Decimal
