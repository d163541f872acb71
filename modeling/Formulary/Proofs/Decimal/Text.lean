import Formulary.Decimal.Text
import Formulary.Proofs.Decimal.Units

/-!
# Decimals read back from their text

A decimal is written with all of its digits, at most twenty-eight of them
behind the point, so nothing is rounded when the text is read again.
`Decimal.map_units_ofPlainText?_text` says that the text of a decimal is plain
text of the same value.
-/

namespace Formulary

/-! ## Rows of digits -/

theorem numeralValue_eq_ofDigitChars
    (digits : List Char) :
    numeralValue digits = Nat.ofDigitChars 10 digits 0 :=
  rfl

theorem ofDigitChars_cons
    (digit : Char)
    (digits : List Char)
    (value : Nat) :
    Nat.ofDigitChars 10 (digit :: digits) value =
      Nat.ofDigitChars 10 digits (10 * value + digitValue digit) := by
  rw [Nat.ofDigitChars_cons, digitValue]

theorem numeralValue_toDigits
    (value : Nat) :
    numeralValue (Nat.toDigits 10 value) = value :=
  Nat.ofDigitChars_toDigits (by decide) (by decide)

theorem isDigit_of_mem_toDigits
    {value : Nat}
    {digit : Char}
    (member : digit ∈ Nat.toDigits 10 value) :
    digit.isDigit = true :=
  Nat.isDigit_of_mem_toDigits (by decide) (by decide) member

/-- Zeros in front make no difference to the value of digits. -/
theorem numeralValue_replicate_append
    (count : Nat)
    (digits : List Char) :
    numeralValue (List.replicate count '0' ++ digits) =
      numeralValue digits := by
  induction count with
  | zero => rfl
  | succ count hypothesis =>
      rw [← hypothesis, List.replicate_succ, List.cons_append]
      rfl

/-- Digits behind a number move it up by as many places. -/
theorem ofDigitChars_numeralValue
    (front back : List Char) :
    Nat.ofDigitChars 10 back (numeralValue front) =
      numeralValue (front ++ back) := by
  rw [numeralValue_eq_ofDigitChars, numeralValue_eq_ofDigitChars,
    Nat.ofDigitChars_append]

theorem le_ofDigitChars
    (digits : List Char)
    (value : Nat) :
    value ≤ Nat.ofDigitChars 10 digits value := by
  rw [Nat.ofDigitChars_eq_ofDigitChars_zero]
  exact
    Nat.le_trans (Nat.le_mul_of_pos_left value (Nat.pow_pos (by decide)))
      (Nat.le_add_right _ _)

theorem ne_of_isDigit
    {digit other : Char}
    (isDigit : digit.isDigit = true)
    (noDigit : other.isDigit = false) :
    digit ≠ other := by
  rintro rfl
  rw [isDigit] at noDigit
  cases noDigit

namespace Decimal

/-! ## Reading digits exactly -/

/-- Fraction digits are appended without rounding where there is room for all of them. -/
theorem appendFraction_eq
    {digits : List Char}
    {mantissa scale : Nat}
    (areDigits : ∀ digit ∈ digits, digit.isDigit = true)
    (room : scale + digits.length ≤ maxScale)
    (small : Nat.ofDigitChars 10 digits mantissa < mantissaBound) :
    appendFraction digits mantissa scale =
      some (Nat.ofDigitChars 10 digits mantissa, scale + digits.length) := by
  induction digits generalizing mantissa scale with
  | nil => rfl
  | cons digit digits hypothesis =>
      have isDigit := areDigits digit List.mem_cons_self
      rw [List.length_cons] at room ⊢
      rw [ofDigitChars_cons] at small ⊢
      have fits :
          scale < maxScale ∧
            10 * mantissa + digitValue digit < mantissaBound := by
        constructor
        · omega
        · exact Nat.lt_of_le_of_lt (le_ofDigitChars digits _) small
      rw [appendFraction, if_pos fits]
      · have others : ∀ other ∈ digits, other.isDigit = true := by
          intro other member
          exact areDigits other (List.mem_cons_of_mem _ member)
        rw [hypothesis others (by omega) small, Nat.add_assoc, Nat.add_comm 1]
      · exact ne_of_isDigit isDigit rfl

/-- Digits with room for all of them stand for the decimal of their number. -/
theorem ofNumeral?_eq
    (negative : Bool)
    {whole fraction : List Char}
    (areDigits : ∀ digit ∈ fraction, digit.isDigit = true)
    (room : fraction.length ≤ maxScale)
    (small : numeralValue (whole ++ fraction) < mantissaBound) :
    ofNumeral? negative ⟨whole, fraction⟩ =
      ofParts? (negative && numeralValue (whole ++ fraction) != 0)
        (numeralValue (whole ++ fraction)) fraction.length := by
  rw [← ofDigitChars_numeralValue] at small ⊢
  have wholeSmall : ¬mantissaBound ≤ numeralValue whole :=
    Nat.not_le_of_lt (Nat.lt_of_le_of_lt (le_ofDigitChars fraction _) small)
  have appended :=
    appendFraction_eq areDigits (by rw [Nat.zero_add]; exact room) small
  simp only [ofNumeral?, if_neg wholeSmall, appended, Nat.zero_add,
    Option.bind_eq_bind, Option.bind_some]

/-! ## The digits of plain text -/

theorem isGrouped_of_isDigit
    {digits : List Char}
    (areDigits : ∀ digit ∈ digits, digit.isDigit = true) :
    isGrouped digits = true := by
  apply List.all_eq_true.2
  intro digit member
  rw [areDigits digit member, Bool.true_or]

/-- The digits around a point are the digits of the text. -/
theorem Numeral.ofText?_of_splitPoint
    {text whole fraction : List Char}
    {point : Option (List Char)}
    (split : splitPoint text = (whole, point))
    (behind : point.getD [] = fraction)
    (nonempty : whole ≠ [])
    (areDigits : ∀ digit ∈ whole, digit.isDigit = true)
    (areFraction : ∀ digit ∈ fraction, digit.isDigit = true) :
    Numeral.ofText? text = some ⟨whole, fraction⟩ := by
  have starts : startsWithDigit (whole ++ fraction) = true := by
    cases whole with
    | nil => exact absurd rfl nonempty
    | cons first rest => exact areDigits first List.mem_cons_self
  have kept : whole.filter Char.isDigit = whole :=
    List.filter_eq_self.2 areDigits
  simp only [Numeral.ofText?, split, behind, isGrouped_of_isDigit areDigits,
    isGrouped_of_isDigit areFraction, starts, Bool.and_self, if_true, kept]

/-- Digits in front of a text are in front of its point. -/
theorem splitPoint_append
    {digits : List Char}
    (areDigits : ∀ digit ∈ digits, digit.isDigit = true)
    (rest : List Char) :
    splitPoint (digits ++ rest) =
      (digits ++ (splitPoint rest).1, (splitPoint rest).2) := by
  have noPoint : ∀ digit ∈ digits, (digit != '.') = true := by
    intro digit member
    exact bne_iff_ne.2 (ne_of_isDigit (areDigits digit member) rfl)
  rw [splitPoint, List.takeWhile_append_of_pos noPoint,
    List.dropWhile_append_of_pos noPoint]
  rfl

/-- Digits without a point are the whole part. -/
theorem Numeral.ofText?_digits
    {digits : List Char}
    (nonempty : digits ≠ [])
    (areDigits : ∀ digit ∈ digits, digit.isDigit = true) :
    Numeral.ofText? digits = some ⟨digits, []⟩ := by
  have split := splitPoint_append areDigits []
  have behind : splitPoint [] = ([], none) := rfl
  rw [behind, List.append_nil] at split
  exact
    Numeral.ofText?_of_splitPoint split rfl nonempty areDigits fun _ member =>
      absurd member List.not_mem_nil

/-- Digits with a point between them are the whole part and the fraction. -/
theorem Numeral.ofText?_pointed
    {whole fraction : List Char}
    (nonempty : whole ≠ [])
    (areDigits : ∀ digit ∈ whole, digit.isDigit = true)
    (areFraction : ∀ digit ∈ fraction, digit.isDigit = true) :
    Numeral.ofText? (whole ++ '.' :: fraction) = some ⟨whole, fraction⟩ := by
  have split := splitPoint_append areDigits ('.' :: fraction)
  have behind : splitPoint ('.' :: fraction) = ([], some fraction) := rfl
  rw [behind, List.append_nil] at split
  exact
    Numeral.ofText?_of_splitPoint split rfl nonempty areDigits areFraction

/-! ## The digits of a size -/

/-- The digits behind the point of a size at a scale. -/
def fractionDigits (mantissa scale : Nat) : List Char :=
  let digits := Nat.toDigits 10 (mantissa % tenTo scale)
  List.replicate (scale - digits.length) '0' ++ digits

/-- The digits of a size at a scale stand for the size. -/
structure SizeDigits (mantissa scale : Nat) (whole fraction : List Char) : Prop where
  nonempty : whole ≠ []
  areDigits : ∀ digit ∈ whole, digit.isDigit = true
  areFraction : ∀ digit ∈ fraction, digit.isDigit = true
  length_eq : fraction.length = scale
  value_eq : numeralValue (whole ++ fraction) = mantissa

theorem length_fractionDigits
    (mantissa : Nat)
    {scale : Nat}
    (positive : 0 < scale) :
    (fractionDigits mantissa scale).length = scale := by
  have short :
      (Nat.toDigits 10 (mantissa % tenTo scale)).length ≤ scale :=
    (Nat.length_toDigits_le_iff (by decide) positive).2
      (Nat.mod_lt mantissa (tenTo_pos scale))
  simp only [fractionDigits, List.length_append, List.length_replicate]
  omega

/-- A size at a scale without fraction digits is written with the digits of the size. -/
theorem sizeDigits_zero
    (mantissa : Nat) :
    SizeDigits mantissa 0 (Nat.toDigits 10 mantissa) [] := by
  constructor
  · exact Nat.toDigits_ne_nil
  · intro digit member
    exact isDigit_of_mem_toDigits member
  · intro digit member
    exact absurd member List.not_mem_nil
  · rfl
  · rw [List.append_nil, numeralValue_toDigits]

/-- A size at a scale is written with the digits of its quotient and its remainder. -/
theorem sizeDigits_of_pos
    (mantissa : Nat)
    {scale : Nat}
    (positive : 0 < scale) :
    SizeDigits mantissa scale (Nat.toDigits 10 (mantissa / tenTo scale))
      (fractionDigits mantissa scale) := by
  have length := length_fractionDigits mantissa positive
  constructor
  · exact Nat.toDigits_ne_nil
  · intro digit member
    exact isDigit_of_mem_toDigits member
  · intro digit member
    rcases List.mem_append.1 member with inZeros | inDigits
    · rw [List.eq_of_mem_replicate inZeros]
      rfl
    · exact isDigit_of_mem_toDigits inDigits
  · exact length
  · rw [← ofDigitChars_numeralValue, Nat.ofDigitChars_eq_ofDigitChars_zero,
      length, numeralValue_toDigits, ← numeralValue_eq_ofDigitChars,
      fractionDigits, numeralValue_replicate_append, numeralValue_toDigits]
    exact Nat.div_add_mod mantissa (tenTo scale)

/-- The text of a size is read as its digits. -/
theorem exists_sizeDigits
    (mantissa scale : Nat) :
    ∃ whole fraction,
      SizeDigits mantissa scale whole fraction ∧
        sizeText mantissa scale =
          whole ++ (if scale = 0 then [] else '.' :: fraction) ∧
        Numeral.ofText? (sizeText mantissa scale) =
          some ⟨whole, fraction⟩ := by
  rcases Nat.eq_zero_or_pos scale with rfl | positive
  · have digits := sizeDigits_zero mantissa
    have written : sizeText mantissa 0 = Nat.toDigits 10 mantissa := by
      rw [sizeText, if_pos rfl, tenTo_zero, Nat.div_one]
    refine ⟨_, _, digits, ?_, ?_⟩
    · rw [if_pos rfl, List.append_nil, written]
    · rw [written]
      exact Numeral.ofText?_digits digits.nonempty digits.areDigits
  · have digits := sizeDigits_of_pos mantissa positive
    have written :
        sizeText mantissa scale =
          Nat.toDigits 10 (mantissa / tenTo scale) ++
            '.' :: fractionDigits mantissa scale := by
      simp only [sizeText, if_neg (Nat.ne_of_gt positive), fractionDigits,
        List.append_assoc, List.cons_append]
    refine ⟨_, _, digits, ?_, ?_⟩
    · rw [if_neg (Nat.ne_of_gt positive), written]
    · rw [written]
      exact
        Numeral.ofText?_pointed digits.nonempty digits.areDigits
          digits.areFraction

/-- The text of a size in range stands for the size at its scale. -/
theorem bind_ofNumeral?_sizeText
    (negative : Bool)
    {mantissa scale : Nat}
    (small : mantissa < mantissaBound)
    (room : scale ≤ maxScale) :
    (Numeral.ofText? (sizeText mantissa scale)).bind (ofNumeral? negative) =
      ofParts? (negative && mantissa != 0) mantissa scale := by
  rcases exists_sizeDigits mantissa scale with
    ⟨whole, fraction, digits, _, read⟩
  have value := digits.value_eq
  have length := digits.length_eq
  rw [read, Option.bind_some,
    ofNumeral?_eq negative digits.areFraction (by rw [length]; exact room)
      (by rw [value]; exact small),
    value, length]

/-- The text of a size begins with a digit and goes on with digits and points. -/
theorem exists_cons_sizeText
    (mantissa scale : Nat) :
    ∃ first rest,
      sizeText mantissa scale = first :: rest ∧ first.isDigit = true ∧
        ∀ character ∈ rest,
          (character.isDigit || character == '.') = true := by
  rcases exists_sizeDigits mantissa scale with
    ⟨whole, fraction, digits, written, _⟩
  cases whole with
  | nil => exact absurd rfl digits.nonempty
  | cons first rest =>
      rw [written, List.cons_append]
      refine ⟨first, _, rfl, digits.areDigits first List.mem_cons_self, ?_⟩
      intro character member
      rcases List.mem_append.1 member with inWhole | behind
      · rw [digits.areDigits character (List.mem_cons_of_mem _ inWhole),
          Bool.true_or]
      · split at behind
        · exact absurd behind List.not_mem_nil
        · rcases List.mem_cons.1 behind with rfl | inFraction
          · rfl
          · rw [digits.areFraction character inFraction, Bool.true_or]

/-- The text of a size ends in a digit. -/
theorem exists_append_sizeText
    (mantissa scale : Nat) :
    ∃ front last,
      sizeText mantissa scale = front ++ [last] ∧ last.isDigit = true := by
  rcases exists_sizeDigits mantissa scale with
    ⟨whole, fraction, digits, written, _⟩
  rw [written]
  split
  · have last := digits.areDigits _ (List.getLast_mem digits.nonempty)
    refine ⟨whole.dropLast, _, ?_, last⟩
    rw [List.append_nil, List.dropLast_concat_getLast]
  · rename_i nonzero
    have nonempty : fraction ≠ [] := by
      rintro rfl
      exact nonzero digits.length_eq.symm
    have last := digits.areFraction _ (List.getLast_mem nonempty)
    refine ⟨whole ++ '.' :: fraction.dropLast, _, ?_, last⟩
    rw [List.append_assoc, List.cons_append, List.dropLast_concat_getLast]

/-! ## The text of a decimal -/

theorem splitSign_of_isDigit
    {first : Char}
    (isDigit : first.isDigit = true)
    (rest : List Char) :
    splitSign (first :: rest) = (false, first :: rest) := by
  rw [splitSign]
  · intro other same
    exact ne_of_isDigit isDigit rfl (List.cons.inj same).1
  · intro other same
    exact ne_of_isDigit isDigit rfl (List.cons.inj same).1

/-- The text of a decimal is plain text of the same value. -/
theorem map_units_ofPlainText?_text
    (decimal : Decimal) :
    (ofPlainText? decimal.text).map units = some decimal.units := by
  have inRange := decimal.normalize.mantissa_lt
  have room := decimal.normalize.scale_le
  have written :
      (ofParts?
          (decimal.normalize.negative && decimal.normalize.mantissa != 0)
          decimal.normalize.mantissa decimal.normalize.scale).map units =
        some decimal.units := by
    rw [map_units_ofParts? _ _ room, if_pos inRange, ← units_normalize,
      units_eq_signed, size]
    cases zero : decimal.normalize.mantissa with
    | zero => rw [Nat.zero_mul, signed_zero, signed_zero]
    | succ mantissa =>
        rw [bne_iff_ne.2 (Nat.succ_ne_zero mantissa), Bool.and_true]
  rw [← written]
  by_cases below :
    (decimal.normalize.negative && !decimal.normalize.isZero) = true
  · have text :
        decimal.text =
          '-' ::
            sizeText decimal.normalize.mantissa decimal.normalize.scale :=
      if_pos below
    have negated := bind_ofNumeral?_sizeText true inRange room
    rw [text, ofPlainText?, splitSign]
    simp only [Option.bind_eq_bind]
    rw [Bool.and_eq_true] at below
    rw [negated, below.1]
  · have text :
        decimal.text =
          sizeText decimal.normalize.mantissa decimal.normalize.scale :=
      if_neg below
    have unsigned := bind_ofNumeral?_sizeText false inRange room
    have positive :
        (decimal.normalize.negative && decimal.normalize.mantissa != 0) =
          false :=
      Bool.eq_false_iff.2 below
    rcases exists_cons_sizeText decimal.normalize.mantissa
        decimal.normalize.scale with
      ⟨first, rest, digits, isDigit, _⟩
    rw [digits] at unsigned text
    rw [text, ofPlainText?, splitSign_of_isDigit isDigit]
    simp only [Option.bind_eq_bind]
    rw [unsigned, positive, Bool.false_and]

end Decimal

end Formulary
