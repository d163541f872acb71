import Formulary.Number.Text
import Formulary.Proofs.Decimal.Text
import Formulary.Proofs.Grammar.Basic
import Formulary.Proofs.Number.Arithmetic

/-!
# Values read back from their text, and values of numerals

The text of a value has no blanks in it and no point at its end, so reading
leaves it as it is: `Number.key_ofText_text` says that it reads back as an
equal value.

A numeral has no sign and no exponent.  Whether it is read as a decimal or,
where no decimal has room for it, by way of a double, its value is never
below zero.  The text of a finite value that is not below zero is a numeral
again.
-/

namespace Formulary

/-! ## Characters of numbers -/

/-- A digit, a point or a minus sign. -/
def isNumberCharacter (character : Char) : Bool :=
  character.isDigit || character == '.' || character == '-'

theorem isNumberCharacter_of_isDigit
    {character : Char}
    (digit : character.isDigit = true) :
    isNumberCharacter character = true := by
  rw [isNumberCharacter, digit, Bool.true_or, Bool.true_or]

theorem isBlank_of_isDigit
    {character : Char}
    (digit : character.isDigit = true) :
    isBlank character = false := by
  have above : 48 ≤ character.toNat :=
    UInt32.le_iff_toNat_le.1
      (decide_eq_true_iff.1 (Bool.and_eq_true_iff.1 digit).1)
  have below : character.toNat ≤ 57 :=
    UInt32.le_iff_toNat_le.1
      (decide_eq_true_iff.1 (Bool.and_eq_true_iff.1 digit).2)
  simp only [isBlank, Bool.or_eq_false_iff, Bool.and_eq_false_iff,
    decide_eq_false_iff_not, beq_eq_false_iff_ne]
  omega

theorem isBlank_of_isNumberCharacter
    {character : Char}
    (allowed : isNumberCharacter character = true) :
    isBlank character = false := by
  rw [isNumberCharacter, Bool.or_eq_true, Bool.or_eq_true, beq_iff_eq,
    beq_iff_eq] at allowed
  rcases allowed with (digit | rfl) | rfl
  · exact isBlank_of_isDigit digit
  · decide
  · decide

/-- The characters of a numeral are digits and points. -/
theorem IsNumeral.allowed
    {text : List Char}
    (shape : IsNumeral text) :
    ∀ character ∈ text, (character.isDigit || character == '.') = true := by
  cases shape with
  | intro digit others =>
      intro character member
      rcases List.mem_cons.1 member with rfl | inRest
      · rw [digit, Bool.true_or]
      · exact others character inRest

/-- A digit or a point, by cases. -/
theorem isDigit_or_eq_point
    {character : Char}
    (allowed : (character.isDigit || character == '.') = true) :
    character.isDigit = true ∨ character = '.' := by
  rwa [Bool.or_eq_true, beq_iff_eq] at allowed

/-- Text without blanks is not trimmed. -/
theorem trimBlanks_eq_self
    {text : List Char}
    (noBlank : ∀ character ∈ text, isBlank character = false) :
    trimBlanks text = text := by
  have kept :
      ∀ row : List Char,
        (∀ character ∈ row, isBlank character = false) →
          row.dropWhile isBlank = row := by
    intro row clean
    cases row with
    | nil => rfl
    | cons first rest =>
        rw [List.dropWhile_cons, clean first List.mem_cons_self,
          if_neg Bool.false_ne_true]
  rw [trimBlanks, kept text noBlank, kept text.reverse, List.reverse_reverse]
  intro character member
  exact noBlank character (List.mem_reverse.1 member)

/-! ## Doubles without a sign -/

namespace Binary64

/-- A finite double or an infinity, with no sign in front. -/
inductive Unsigned : Binary64 → Prop where
  | finite (significand : Nat) (exponent : Int) :
      Unsigned (.finite false significand exponent)
  | infinite : Unsigned (.infinite false)

theorem unsigned_nearest
    (value : Rat) :
    (nearest false value).Unsigned := by
  simp only [nearest]
  split
  · exact .finite _ _
  · split <;> split <;> constructor

/-- The double nearest to digits without a sign has none. -/
theorem unsigned_nearestScientific
    (digits : List Char)
    (exponent : Int) :
    (nearestScientific false digits exponent).Unsigned := by
  simp only [nearestScientific]
  split
  · exact .finite _ _
  · split
    · exact .infinite
    · split
      · exact .finite _ _
      · exact unsigned_nearest _

end Binary64

namespace Number

/-- Text of number characters is decimal text. -/
theorem ofText_of_forall
    {text : List Char}
    (allowed : ∀ character ∈ text, isNumberCharacter character = true) :
    ofText text = ofDecimalText (dropFinalPoint text) := by
  have noWord :
      ∀ word : List Char,
        (∃ character ∈ word, isNumberCharacter character = false) →
          text ≠ word := by
    rintro word ⟨character, member, other⟩ rfl
    rw [allowed character member] at other
    cases other
  have noInfinity :
      ¬(text = "Infinity".toList ∨ text = "+Infinity".toList) := by
    rintro (same | same)
    · exact noWord _ ⟨'I', by decide, by decide⟩ same
    · exact noWord _ ⟨'I', by decide, by decide⟩ same
  have trimmed : trimBlanks text = text := by
    apply trimBlanks_eq_self
    intro character member
    exact isBlank_of_isNumberCharacter (allowed character member)
  simp only [ofText, trimmed]
  rw [if_neg (noWord _ ⟨'N', by decide, by decide⟩), if_neg noInfinity,
    if_neg (noWord _ ⟨'I', by decide, by decide⟩)]

/-- Only a point at the end of a text is dropped. -/
theorem dropFinalPoint_append
    (front : List Char)
    {last : Char}
    (noPoint : last ≠ '.') :
    dropFinalPoint (front ++ [last]) = front ++ [last] := by
  rw [dropFinalPoint, List.reverse_append, List.reverse_singleton,
    List.singleton_append]
  split
  · rfl
  · rename_i second rest same
    exact absurd (List.cons.inj same).1 noPoint
  · rfl

/-- Nothing but a point is dropped, and never all of a text. -/
theorem exists_append_dropFinalPoint
    (text : List Char) :
    ∃ dropped,
      dropFinalPoint text ++ dropped = text ∧
        (text ≠ [] → dropFinalPoint text ≠ []) := by
  rw [dropFinalPoint]
  split
  · exact ⟨[], List.append_nil _, id⟩
  · rename_i second rest _ same
    refine ⟨['.'], ?_, fun _ => ?_⟩
    · rw [← List.reverse_cons, ← same, List.reverse_reverse]
    · rw [List.reverse_cons]
      exact List.append_ne_nil_of_right_ne_nil _ (List.cons_ne_nil _ _)
  · exact ⟨[], List.append_nil _, id⟩

/-! ## Reading back what was written -/

/-- The text of a decimal is a row of number characters that ends in a digit. -/
theorem exists_append_text
    (decimal : Decimal) :
    (∀ character ∈ decimal.text, isNumberCharacter character = true) ∧
      ∃ front last,
        decimal.text = front ++ [last] ∧ last.isDigit = true := by
  rcases
      Decimal.exists_cons_sizeText decimal.normalize.mantissa
        decimal.normalize.scale with
    ⟨first, rest, digits, isDigit, others⟩
  rcases
      Decimal.exists_append_sizeText decimal.normalize.mantissa
        decimal.normalize.scale with
    ⟨front, last, ends, lastDigit⟩
  have size :
      ∀ character ∈
        Decimal.sizeText decimal.normalize.mantissa decimal.normalize.scale,
        isNumberCharacter character = true := by
    intro character member
    rw [digits] at member
    rcases List.mem_cons.1 member with rfl | inRest
    · exact isNumberCharacter_of_isDigit isDigit
    · rw [isNumberCharacter, others character inRest, Bool.true_or]
  rw [Decimal.text]
  split
  · constructor
    · intro character member
      rcases List.mem_cons.1 member with rfl | inSize
      · decide
      · exact size character inSize
    · exact ⟨'-' :: front, last, by rw [ends, List.cons_append], lastDigit⟩
  · exact ⟨size, front, last, ends, lastDigit⟩

/-- Plain text is read as its decimal. -/
theorem ofDecimalText_of_plain
    {text : List Char}
    {decimal : Decimal}
    (plain : Decimal.ofPlainText? text = some decimal) :
    ofDecimalText text = .finite decimal := by
  rw [ofDecimalText, plain]

/-- The text of a decimal reads back as a decimal of the same value. -/
theorem key_ofText_finite
    (decimal : Decimal) :
    (ofText decimal.text).key = .finite decimal.units := by
  rcases exists_append_text decimal with
    ⟨allowed, front, last, ends, lastDigit⟩
  have kept : dropFinalPoint decimal.text = decimal.text := by
    rw [ends]
    exact dropFinalPoint_append front (ne_of_isDigit lastDigit rfl)
  rcases
      Option.map_eq_some_iff.1 (Decimal.map_units_ofPlainText?_text decimal) with
    ⟨other, plain, units⟩
  rw [ofText_of_forall allowed, kept, ofDecimalText_of_plain plain, key, units]

theorem ofText_infinity :
    ofText "Infinity".toList = .infinite false := by
  have trimmed : trimBlanks "Infinity".toList = "Infinity".toList := by decide
  simp only [ofText, trimmed, true_or, if_true]
  rw [if_neg (by decide)]

theorem ofText_negative_infinity :
    ofText "-Infinity".toList = .infinite true := by
  have trimmed : trimBlanks "-Infinity".toList = "-Infinity".toList := by
    decide
  simp only [ofText, trimmed, if_true]
  rw [if_neg (by decide), if_neg (by decide)]

theorem ofText_nan :
    ofText "NaN".toList = .nan := by
  have trimmed : trimBlanks "NaN".toList = "NaN".toList := by decide
  simp only [ofText, trimmed, if_true]

/-- The text of a value reads back as an equal value. -/
theorem key_ofText_text : (number : Number) → (ofText number.text).key = number.key
  | .finite decimal => key_ofText_finite decimal
  | .infinite false => congrArg key ofText_infinity
  | .infinite true => congrArg key ofText_negative_infinity
  | .nan => congrArg key ofText_nan

/-! ## Values of numerals -/

/-- A decimal or an infinity, with no sign in front. -/
inductive Unsigned : Number → Prop where
  | finite
      {decimal : Decimal}
      (positive : decimal.negative = false) :
      Unsigned (.finite decimal)
  | infinite : Unsigned (.infinite false)

/-- A value without a sign is not below zero. -/
theorem Unsigned.isNegative
    {number : Number}
    (unsigned : number.Unsigned) :
    number.isNegative = false := by
  cases unsigned with
  | finite positive => rw [Number.isNegative, positive, Bool.false_and]
  | infinite => rfl

theorem Unsigned.ne_nan
    {number : Number}
    (unsigned : number.Unsigned) :
    number ≠ .nan := by
  rintro rfl
  cases unsigned

/-- Digits without a sign stand for a decimal without one. -/
theorem negative_of_ofNumeral?
    {numeral : Decimal.Numeral}
    {decimal : Decimal}
    (built : Decimal.ofNumeral? false numeral = some decimal) :
    decimal.negative = false := by
  simp only [Decimal.ofNumeral?, Option.bind_eq_bind] at built
  split at built
  · cases built
  · rcases Option.bind_eq_some_iff.1 built with ⟨⟨mantissa, scale⟩, _, parts⟩
    exact Decimal.negative_of_ofParts? parts

/-- The decimal for a size without a sign has none. -/
theorem negative_of_decimalOfSize?
    {significand : Nat}
    {exponent : Int}
    {decimal : Decimal}
    (built :
      Binary64.decimalOfSize? false significand exponent = some decimal) :
    decimal.negative = false := by
  rw [Binary64.decimalOfSize?] at built
  split at built
  all_goals
    rcases Option.bind_eq_some_iff.1 built with ⟨scaled, _, rest⟩
    simp only at rest
    split at rest
    · rcases Option.bind_eq_some_iff.1 rest with ⟨mantissa, _, parts⟩
      exact Decimal.negative_of_ofParts? parts
    · exact Decimal.negative_of_ofParts? rest

/-- A double without a sign becomes a value without one. -/
theorem unsigned_ofBinary64
    {double : Binary64}
    (unsigned : double.Unsigned) :
    (ofBinary64 double).Unsigned := by
  cases unsigned with
  | finite significand exponent =>
      rw [ofBinary64]
      cases converted :
          (Binary64.finite false significand exponent).toDecimal? with
      | none => exact .infinite
      | some decimal =>
          apply Unsigned.finite
          rw [Binary64.toDecimal?] at converted
          split at converted
          · cases converted
            rfl
          · exact negative_of_decimalOfSize? converted
  | infinite => exact .infinite

/-- Text without a sign and without an exponent, as it is read. -/
structure PlainText (text : List Char) : Prop where
  unsigned : splitSign text = (false, text)
  noMark : ∀ character ∈ text, (character == 'e' || character == 'E') = false

/-- A numeral is plain text. -/
theorem plainText_of_isNumeral
    {text : List Char}
    (shape : IsNumeral text) :
    PlainText text where
  unsigned := by
    cases shape with
    | intro digit others => exact Decimal.splitSign_of_isDigit digit _
  noMark := by
    intro character member
    rcases isDigit_or_eq_point (shape.allowed character member) with
      isDigit | rfl
    · rw [Bool.or_eq_false_iff, beq_eq_false_iff_ne, beq_eq_false_iff_ne]
      exact ⟨ne_of_isDigit isDigit rfl, ne_of_isDigit isDigit rfl⟩
    · rfl

section

variable {text : List Char}

theorem PlainText.dropWhile_eq_nil
    (plain : PlainText text) :
    text.dropWhile (fun character => !(character == 'e' || character == 'E')) =
      [] := by
  rw [← List.append_nil text, List.dropWhile_append_of_pos]
  · rfl
  · intro character member
    rw [plain.noMark character member, Bool.not_false]

/-- Plain text is read by its digits. -/
theorem PlainText.ofPlainText?_eq
    (plain : PlainText text) :
    Decimal.ofPlainText? text =
      (Decimal.Numeral.ofText? text).bind (Decimal.ofNumeral? false) := by
  simp only [Decimal.ofPlainText?, plain.unsigned, Option.bind_eq_bind]

theorem PlainText.ofScientificText?_eq_none
    (plain : PlainText text) :
    Decimal.ofScientificText? text = none := by
  simp only [Decimal.ofScientificText?, plain.dropWhile_eq_nil]

/-- The double of plain text is the one nearest to its digits. -/
theorem PlainText.binary64_ofText?_eq
    (plain : PlainText text) :
    Binary64.ofText? text =
      let whole := (splitPoint text).1
      let fraction := (splitPoint text).2.getD []
      if (whole ++ fraction).isEmpty ||
          !(whole ++ fraction).all Char.isDigit then
        none
      else
        some
          (Binary64.nearestScientific false (whole ++ fraction)
            (0 - (fraction.length : Int))) := by
  simp only [Binary64.ofText?, plain.unsigned, Binary64.splitExponent?,
    plain.dropWhile_eq_nil, Option.bind_eq_bind, Option.bind_some]

/-- The value of plain text has no sign, if it is a number. -/
theorem unsigned_ofDecimalText
    (plain : PlainText text)
    (number : ofDecimalText text ≠ .nan) :
    (ofDecimalText text).Unsigned := by
  rw [ofDecimalText, plain.ofScientificText?_eq_none] at number ⊢
  cases read : Decimal.ofPlainText? text with
  | some decimal =>
      rw [plain.ofPlainText?_eq] at read
      rcases Option.bind_eq_some_iff.1 read with ⟨numeral, _, built⟩
      exact .finite (negative_of_ofNumeral? built)
  | none =>
      simp only [read] at number ⊢
      cases double : Binary64.ofText? text with
      | none =>
          rw [double] at number
          exact absurd rfl number
      | some value =>
          apply unsigned_ofBinary64
          rw [plain.binary64_ofText?_eq] at double
          simp only at double
          split at double
          · cases double
          · cases double
            exact Binary64.unsigned_nearestScientific _ _

/-- A numeral without the point at its end is a numeral. -/
theorem isNumeral_dropFinalPoint
    (shape : IsNumeral text) :
    IsNumeral (dropFinalPoint text) := by
  rcases exists_append_dropFinalPoint text with ⟨dropped, whole, nonempty⟩
  cases shape with
  | @intro first rest digit others =>
      cases read : dropFinalPoint (first :: rest) with
      | nil => exact absurd read (nonempty (List.cons_ne_nil _ _))
      | cons other behind =>
          rw [read, List.cons_append, List.cons.injEq] at whole
          rcases whole with ⟨rfl, whole⟩
          apply IsNumeral.intro digit
          intro character member
          apply others
          rw [← whole]
          exact List.mem_append_left _ member

/-- A numeral is decimal text. -/
theorem ofText_of_isNumeral
    (shape : IsNumeral text) :
    ofText text = ofDecimalText (dropFinalPoint text) := by
  apply ofText_of_forall
  intro character member
  rw [isNumberCharacter, shape.allowed character member, Bool.true_or]

/-- The value of a numeral has no sign, if it is a number. -/
theorem unsigned_ofText
    (shape : IsNumeral text)
    (number : ofText text ≠ .nan) :
    (ofText text).Unsigned := by
  rw [ofText_of_isNumeral shape] at number ⊢
  apply unsigned_ofDecimalText _ number
  exact plainText_of_isNumeral (isNumeral_dropFinalPoint shape)

/-- The value of a numeral is not below zero. -/
theorem isNegative_ofText
    (shape : IsNumeral text) :
    (ofText text).isNegative = false := by
  cases value : ofText text with
  | nan => rfl
  | _ =>
      rw [← value]
      apply Unsigned.isNegative
      apply unsigned_ofText shape
      rw [value]
      nofun

end

/-- The text of a finite value that is not below zero is a numeral. -/
theorem isNumeral_text
    {number : Number}
    (finite : number.isFinite = true)
    (notNegative : number.isNegative = false) :
    IsNumeral number.text := by
  match number with
  | .finite decimal =>
      have sameKey :
          (Number.finite decimal.normalize).key =
            (Number.finite decimal).key := by
        rw [key_finite, key_finite, Decimal.units_normalize]
      have notBelow :
          (Number.finite decimal.normalize).isNegative = false := by
        rw [← isNegative_key, sameKey, isNegative_key, notNegative]
      have written :
          decimal.text =
            Decimal.sizeText decimal.normalize.mantissa
              decimal.normalize.scale :=
        if_neg (Bool.eq_false_iff.1 notBelow)
      rcases
          Decimal.exists_cons_sizeText decimal.normalize.mantissa
            decimal.normalize.scale with
        ⟨first, rest, digits, isDigit, others⟩
      show IsNumeral decimal.text
      rw [written, digits]
      exact .intro isDigit others
  | .infinite _ => exact absurd finite Bool.false_ne_true
  | .nan => exact absurd finite Bool.false_ne_true

end Number

end Formulary
