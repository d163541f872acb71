import Formulary.Proofs.Number.Text

/-!
# The text of a value as an encoding of it

A value may be written with several scales and with two signs of zero, but its
text is written from the form without trailing zeros, and that form is unique:
`Decimal.Reduced.eq_of_size_eq`.  So equal values have one text, and since the
text reads back as an equal value, unequal ones have two:
`Number.text_faithful`.
-/

namespace Formulary

namespace Decimal

/-- Decimals of one value have one text. -/
theorem text_eq_of_units_eq
    {left right : Decimal}
    (same : left.units = right.units) :
    left.text = right.text := by
  have sameNormal : left.normalize.units = right.normalize.units := by
    rw [units_normalize, units_normalize, same]
  have sameSize : left.normalize.size = right.normalize.size := by
    rw [← natAbs_units, ← natAbs_units, sameNormal]
  rcases
      left.reduced_normalize.eq_of_size_eq right.reduced_normalize sameSize with
    ⟨scale, mantissa⟩
  simp only [text, negative_and_nonzero, sameNormal, scale, mantissa]

end Decimal

namespace Number

/-- Equal values have one text. -/
theorem text_eq_of_key_eq
    {left right : Number}
    (same : left.key = right.key) :
    left.text = right.text := by
  cases left with
  | finite left =>
      cases right with
      | finite right =>
          exact Decimal.text_eq_of_units_eq (Key.finite.inj same)
      | infinite _ => cases same
      | nan => cases same
  | infinite negative =>
      cases right with
      | finite _ => cases same
      | infinite _ => rw [Key.infinite.inj same]
      | nan => cases same
  | nan =>
      cases right with
      | finite _ => cases same
      | infinite _ => cases same
      | nan => rfl

/-- Values of one text are equal. -/
theorem key_eq_of_text_eq
    {left right : Number}
    (same : left.text = right.text) :
    left.key = right.key := by
  rw [← key_ofText_text left, ← key_ofText_text right, same]

/-- The text of a value reads back as an equal value, and two values have one text exactly if they are equal. -/
theorem text_faithful :
    (∀ number : Number, (ofString (toString number) == number) = true) ∧
      ∀ left right : Number,
        toString left = toString right ↔ (left == right) = true := by
  constructor
  · intro number
    rw [beq_iff_key]
    show (ofText (String.ofList number.text).toList).key = number.key
    rw [String.toList_ofList, key_ofText_text]
  · intro left right
    rw [beq_iff_key]
    show String.ofList left.text = String.ofList right.text ↔ _
    rw [String.ofList_inj]
    exact ⟨key_eq_of_text_eq, text_eq_of_key_eq⟩

end Number

end Formulary
