import Formulary.Proofs.Number.Text

/-!
# Which numerals are numbers

A numeral is a digit followed by digits and points, in any number and order.
A point at its end is dropped, unless another one stands right in front of it,
and what is left is a number if there is one point in it at most.

So a numeral with two points or more is not-a-number, like `1.2.3` and `1..`,
unless its digits are those of a decimal with one more point at its end:
`1.2.` is read as `1.2`.  All other numerals are decimals without a sign or,
where they are too large, the positive infinity.  This is `ofText_numeral`.
-/

namespace Formulary

/-! ## Points among digits -/

/-- Digits have no points among them. -/
theorem count_point_of_isDigit
    {digits : List Char}
    (areDigits : ∀ digit ∈ digits, digit.isDigit = true) :
    digits.count '.' = 0 := by
  rw [List.count_eq_zero]
  intro member
  exact absurd (areDigits '.' member) (by decide)

/-- A digit in front of a text is in front of its point. -/
theorem splitPoint_cons_of_isDigit
    {first : Char}
    (digit : first.isDigit = true)
    (rest : List Char) :
    splitPoint (first :: rest) =
      (first :: (splitPoint rest).1, (splitPoint rest).2) := by
  have isDigit : ∀ other ∈ [first], other.isDigit = true := by
    intro other member
    rwa [List.mem_singleton.1 member]
  exact Decimal.splitPoint_append isDigit rest

/-- What follows the first point is a part of the text. -/
theorem mem_of_mem_splitPoint
    {text : List Char}
    {character : Char}
    (member : character ∈ (splitPoint text).2.getD []) :
    character ∈ text := by
  rw [splitPoint] at member
  simp only at member
  split at member
  · exact absurd member List.not_mem_nil
  · rename_i point fraction found
    apply List.dropWhile_subset (· != '.')
    rw [found]
    exact List.mem_cons_of_mem _ member

section

variable {text : List Char}
variable
    (allowed :
      ∀ character ∈ text, (character.isDigit || character == '.') = true)

include allowed

/-- A row of digits and points is a row of digits if it has no point. -/
theorem isDigit_iff_count_point :
    (∀ character ∈ text, character.isDigit = true) ↔ text.count '.' = 0 := by
  constructor
  · exact count_point_of_isDigit
  · intro noPoint character member
    rcases isDigit_or_eq_point (allowed character member) with digit | rfl
    · exact digit
    · exact absurd member (List.count_eq_zero.1 noPoint)

/-- The characters in front of the first point are digits. -/
theorem isDigit_of_mem_splitPoint :
    ∀ digit ∈ (splitPoint text).1, digit.isDigit = true := by
  intro digit member
  have noPoint := List.all_eq_true.1 List.all_takeWhile digit member
  rcases
      isDigit_or_eq_point
        (allowed digit (List.takeWhile_subset _ member)) with
    isDigit | rfl
  · exact isDigit
  · cases noPoint

/-- Nothing but digits follows the first point if there is one point at most. -/
theorem isDigit_of_splitPoint_iff :
    (∀ digit ∈ (splitPoint text).2.getD [], digit.isDigit = true) ↔
      text.count '.' ≤ 1 := by
  induction text with
  | nil => exact ⟨fun _ => Nat.zero_le _, fun _ => nofun⟩
  | cons first rest hypothesis =>
      rcases List.forall_mem_cons.1 allowed with ⟨firstAllowed, others⟩
      rcases isDigit_or_eq_point firstAllowed with digit | rfl
      · have noPoint : first ≠ '.' := ne_of_isDigit digit rfl
        rw [List.count_cons_of_ne noPoint, ← hypothesis others,
          splitPoint_cons_of_isDigit digit]
      · rw [List.count_cons_self, Nat.succ_le_succ_iff, Nat.le_zero,
          ← isDigit_iff_count_point others]
        rfl

end

/-! ## The value of digits and points -/

namespace Number

section

variable {text : List Char}

/-- Digits with one point at most are a number. -/
theorem ofDecimalText_ne_nan
    (shape : IsNumeral text)
    (onePoint : text.count '.' ≤ 1) :
    ofDecimalText text ≠ .nan := by
  have plain := plainText_of_isNumeral shape
  have whole := isDigit_of_mem_splitPoint shape.allowed
  have fraction := (isDigit_of_splitPoint_iff shape.allowed).2 onePoint
  rw [ofDecimalText, plain.ofScientificText?_eq_none]
  cases Decimal.ofPlainText? text with
  | some decimal =>
      intro same
      cases same
  | none =>
      have nonempty : (splitPoint text).1 ≠ [] := by
        cases shape with
        | intro digit others =>
            rw [splitPoint_cons_of_isDigit digit]
            exact List.cons_ne_nil _ _
      have digits :
          ¬(((splitPoint text).1 ++ (splitPoint text).2.getD []).isEmpty ||
              !((splitPoint text).1 ++ (splitPoint text).2.getD []).all
                Char.isDigit) =
            true := by
        rw [Bool.not_eq_true, Bool.or_eq_false_iff, Bool.not_eq_false',
          List.all_append, Bool.and_eq_true, List.all_eq_true,
          List.all_eq_true, List.isEmpty_eq_false_iff]
        exact ⟨List.append_ne_nil_of_left_ne_nil nonempty _, whole, fraction⟩
      rw [plain.binary64_ofText?_eq]
      simp only [if_neg digits]
      exact
        (unsigned_ofBinary64 (Binary64.unsigned_nearestScientific _ _)).ne_nan

/-- Digits with two points among them are not-a-number. -/
theorem ofDecimalText_of_two_points
    (shape : IsNumeral text)
    (twoPoints : 1 < text.count '.') :
    ofDecimalText text = .nan := by
  have plain := plainText_of_isNumeral shape
  have further :
      ¬∀ digit ∈ (splitPoint text).2.getD [], digit.isDigit = true := by
    rw [isDigit_of_splitPoint_iff shape.allowed]
    exact Nat.not_le_of_lt twoPoints
  have noPlain : Decimal.ofPlainText? text = none := by
    have noNumeral : Decimal.Numeral.ofText? text = none := by
      apply if_neg
      intro digits
      rw [Bool.and_eq_true, Bool.and_eq_true] at digits
      apply further
      intro character member
      have grouped := List.all_eq_true.1 digits.1.2 character member
      rcases
          isDigit_or_eq_point
            (shape.allowed character (mem_of_mem_splitPoint member)) with
        digit | rfl
      · exact digit
      · cases grouped
    rw [plain.ofPlainText?_eq, noNumeral, Option.bind_none]
  have noDouble : Binary64.ofText? text = none := by
    rw [plain.binary64_ofText?_eq]
    apply if_pos
    rw [Bool.or_eq_true, Bool.not_eq_true', List.all_append,
      Bool.and_eq_false_iff]
    right
    right
    rwa [Bool.eq_false_iff, Ne, List.all_eq_true]
  rw [ofDecimalText, noPlain, plain.ofScientificText?_eq_none, noDouble]

end

/-! ## Points at the end -/

/-- A decimal with a fraction, and one more point at its end. -/
inductive HasSecondFinalPoint : List Char → Prop where
  | intro
      {whole fraction : List Char}
      (wholeDigits : ∀ digit ∈ whole, digit.isDigit = true)
      (fractionDigits : ∀ digit ∈ fraction, digit.isDigit = true)
      (nonempty : fraction ≠ []) :
      HasSecondFinalPoint (whole ++ '.' :: fraction ++ ['.'])

/-- A single point at the end of a text is dropped. -/
theorem dropFinalPoint_append_point
    (front : List Char)
    {last : Char}
    (noPoint : last ≠ '.') :
    dropFinalPoint (front ++ [last] ++ ['.']) = front ++ [last] := by
  rw [dropFinalPoint, List.reverse_append, List.reverse_append,
    List.reverse_singleton, List.reverse_singleton, List.append_assoc,
    List.singleton_append, List.singleton_append]
  split
  · rename_i rest same
    exact absurd (List.cons.inj (List.cons.inj same).2).1 noPoint
  · rename_i second rest _ same
    rw [List.cons.injEq, List.cons.injEq] at same
    rcases same with ⟨_, rfl, rfl⟩
    rw [List.reverse_cons, List.reverse_reverse]
  · rename_i other
    exact absurd rfl (other _ _)

/-- Two points at the end of a text are kept. -/
theorem dropFinalPoint_append_points
    (front : List Char) :
    dropFinalPoint (front ++ ['.'] ++ ['.']) = front ++ ['.'] ++ ['.'] := by
  rw [dropFinalPoint, List.reverse_append, List.reverse_append]
  rfl

section

variable {text front : List Char} {last : Char}

/-- In front of a second point at the end there is one point, and a digit in the last place. -/
theorem HasSecondFinalPoint.elim
    (pointed : HasSecondFinalPoint (front ++ [last])) :
    last = '.' ∧ front.count '.' = 1 ∧ front.getLast? ≠ some '.' := by
  generalize written : front ++ [last] = text at pointed
  cases pointed with
  | @intro whole fraction wholeDigits fractionDigits nonempty =>
      rcases List.append_inj' written rfl with ⟨rfl, same⟩
      refine ⟨(List.cons.inj same).1, ?_, ?_⟩
      · rw [List.count_append, List.count_cons_self,
          count_point_of_isDigit wholeDigits,
          count_point_of_isDigit fractionDigits]
      · intro point
        rcases List.eq_nil_or_concat fraction with
          rfl | ⟨digits, digit, concat⟩
        · exact absurd rfl nonempty
        · rw [concat, List.concat_eq_append, ← List.cons_append,
            ← List.append_assoc, List.getLast?_concat,
            Option.some.injEq] at point
          have isDigit := fractionDigits digit
          rw [concat, List.concat_eq_append] at isDigit
          exact
            ne_of_isDigit
              (isDigit (List.mem_append_right _ List.mem_cons_self)) rfl point

/-- Digits with one point, and the point not in the last place, are those of a decimal. -/
theorem hasSecondFinalPoint_of_count
    (allowed :
      ∀ character ∈ front ++ [last],
        (character.isDigit || character == '.') = true)
    (noPoint : last ≠ '.')
    (onePoint : (front ++ [last]).count '.' = 1) :
    HasSecondFinalPoint (front ++ [last] ++ ['.']) := by
  have member : '.' ∈ front ++ [last] := by
    rw [← List.count_pos_iff, onePoint]
    exact Nat.zero_lt_one
  rcases List.append_of_mem member with ⟨whole, fraction, split⟩
  rw [split] at allowed onePoint ⊢
  rw [List.count_append, List.count_cons_self] at onePoint
  apply HasSecondFinalPoint.intro
  · apply (isDigit_iff_count_point _).2
    · omega
    · intro character inWhole
      exact allowed character (List.mem_append_left _ inWhole)
  · apply (isDigit_iff_count_point _).2
    · omega
    · intro character inFraction
      exact
        allowed character
          (List.mem_append_right _ (List.mem_cons_of_mem _ inFraction))
  · rintro rfl
    exact noPoint (List.cons.inj (List.append_inj' split rfl).2).1

/-- Two points are left of a numeral unless the second of two is dropped at its end. -/
theorem lt_count_dropFinalPoint_iff
    (shape : IsNumeral text) :
    1 < (dropFinalPoint text).count '.' ↔
      1 < text.count '.' ∧ ¬HasSecondFinalPoint text := by
  rcases List.eq_nil_or_concat text with rfl | ⟨front, last, concat⟩
  · cases shape
  · rw [List.concat_eq_append] at concat
    subst concat
    by_cases atEnd : last = '.'
    · subst atEnd
      rcases List.eq_nil_or_concat front with rfl | ⟨other, second, concat⟩
      · cases shape with
        | intro digit others => cases digit
      · rw [List.concat_eq_append] at concat
        subst concat
        by_cases twoPoints : second = '.'
        · -- Both points are kept, and they are not those of a decimal.
          subst twoPoints
          rw [dropFinalPoint_append_points]
          refine ⟨fun several => ⟨several, fun pointed => ?_⟩, And.left⟩
          exact pointed.elim.2.2 List.getLast?_concat
        · -- One point less is left.
          have allowed := shape.allowed
          have counted :
              (other ++ [second] ++ ['.']).count '.' =
                (other ++ [second]).count '.' + 1 := by
            rw [List.count_append, List.count_singleton_self]
          rw [dropFinalPoint_append_point other twoPoints, counted]
          constructor
          · intro several
            refine ⟨Nat.lt_succ_of_lt several, fun pointed => ?_⟩
            rw [pointed.elim.2.1] at several
            exact Nat.lt_irrefl _ several
          · rintro ⟨several, single⟩
            apply Nat.lt_of_le_of_ne (Nat.le_of_lt_succ several)
            intro onePoint
            apply single
            apply hasSecondFinalPoint_of_count _ twoPoints onePoint.symm
            intro character member
            exact allowed character (List.mem_append_left _ member)
    · -- There is no point at the end.
      rw [dropFinalPoint_append front atEnd]
      refine ⟨fun several => ⟨several, fun pointed => ?_⟩, And.left⟩
      exact atEnd pointed.elim.1

/-- The second point at the end is dropped, and no other one. -/
theorem HasSecondFinalPoint.dropFinalPoint_eq
    (pointed : HasSecondFinalPoint text) :
    dropFinalPoint text = text.dropLast ∧
      dropFinalPoint text.dropLast = text.dropLast := by
  cases pointed with
  | @intro whole fraction _ fractionDigits nonempty =>
      rcases List.eq_nil_or_concat fraction with rfl | ⟨digits, digit, concat⟩
      · exact absurd rfl nonempty
      · rw [List.concat_eq_append] at concat
        subst concat
        have noPoint : digit ≠ '.' :=
          ne_of_isDigit
            (fractionDigits digit (List.mem_append_right _ List.mem_cons_self))
            rfl
        rw [List.dropLast_concat, ← List.cons_append, ← List.append_assoc]
        constructor
        · exact dropFinalPoint_append_point _ noPoint
        · exact dropFinalPoint_append _ noPoint

/--
A numeral is not-a-number if it has two points or more, unless the second of
two stands at its end behind digits.  Then it is dropped.  Every other value
of a numeral is a decimal without a sign or the positive infinity.
-/
theorem ofText_numeral
    (shape : IsNumeral text) :
    (ofText text = .nan ↔
      1 < text.count '.' ∧ ¬HasSecondFinalPoint text) ∧
    (ofText text ≠ .nan → (ofText text).Unsigned) ∧
    (HasSecondFinalPoint text →
      text.count '.' = 2 ∧ ofText text = ofText text.dropLast) := by
  have kept := isNumeral_dropFinalPoint shape
  refine ⟨?_, unsigned_ofText shape, ?_⟩
  · rw [ofText_of_isNumeral shape, ← lt_count_dropFinalPoint_iff shape]
    constructor
    · intro notNumber
      apply Nat.lt_of_not_le
      intro onePoint
      exact ofDecimalText_ne_nan kept onePoint notNumber
    · exact ofDecimalText_of_two_points kept
  · intro pointed
    constructor
    · cases pointed with
      | intro wholeDigits fractionDigits _ =>
          rw [List.count_append, List.count_append, List.count_cons_self,
            count_point_of_isDigit wholeDigits,
            count_point_of_isDigit fractionDigits]
          rfl
    · rcases pointed.dropFinalPoint_eq with ⟨dropped, once⟩
      rw [dropped] at kept
      rw [ofText_of_isNumeral shape, ofText_of_isNumeral kept, dropped, once]

/-- The numeral `1.2.` has the value of `1.2`. -/
theorem ofText_numeral_second_final_point :
    IsNumeral "1.2.".toList ∧ HasSecondFinalPoint "1.2.".toList ∧
      ofText "1.2.".toList = ofText "1.2".toList ∧
      (ofText "1.2.".toList).Unsigned := by
  have shape : IsNumeral "1.2.".toList :=
    .intro (by decide) (List.all_eq_true.1 rfl)
  have pointed : HasSecondFinalPoint "1.2.".toList :=
    @HasSecondFinalPoint.intro ['1'] ['2'] (List.all_eq_true.1 rfl)
      (List.all_eq_true.1 rfl) (List.cons_ne_nil _ _)
  rcases ofText_numeral shape with ⟨notNumber, unsigned, dropped⟩
  refine ⟨shape, pointed, (dropped pointed).2, unsigned ?_⟩
  intro isNan
  exact (notNumber.1 isNan).2 pointed

end

/-- A numeral with two points can be a number. -/
theorem ofText_two_points_ne_nan :
    IsNumeral "1.2.".toList ∧ 1 < "1.2.".toList.count '.' ∧
      ofText "1.2.".toList ≠ .nan := by
  have shape : IsNumeral "1.2.".toList :=
    .intro (by decide) (List.all_eq_true.1 rfl)
  have kept : dropFinalPoint "1.2.".toList = "1.2".toList := by decide
  refine ⟨shape, by decide, ?_⟩
  rw [ofText_of_isNumeral shape, kept]
  apply ofDecimalText_ne_nan
  · rw [← kept]
    exact isNumeral_dropFinalPoint shape
  · decide

end Number

end Formulary
