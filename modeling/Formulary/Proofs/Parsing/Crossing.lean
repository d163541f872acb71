import Formulary.Proofs.Parsing.Priorities

/-!
# Crossing levels

A bracket level crosses if two additive operators in it, with no other one
between them, have a multiplicative operator between them and a power behind
the last such operator.  At the second of the two, chains wait behind an
operator of each priority.

`Waits` says of a list of operators that a chain waits behind one of them:
`waits_append` is the rule by which climbing keeps its chains, and
`crosses_append` says when one more operator makes a level cross.
-/

namespace Formulary

/-! ## Kinds of operators -/

namespace Operator

/-- A plus or a minus. -/
def IsAdditive (operator : Operator) : Prop :=
  operator = .add ∨ operator = .subtract

/-- A product, a quotient or a remainder. -/
def IsMultiplicative (operator : Operator) : Prop :=
  operator = .multiply ∨ operator = .divide ∨ operator = .remainder

theorem isAdditive_iff
    (operator : Operator) :
    operator.IsAdditive ↔ operator.priority = 0 := by
  cases operator <;> simp [IsAdditive, priority]

theorem isMultiplicative_iff
    (operator : Operator) :
    operator.IsMultiplicative ↔ operator.priority = 1 := by
  cases operator <;> simp [IsMultiplicative, priority]

theorem eq_power_iff
    (operator : Operator) :
    operator = .power ↔ operator.priority = 2 := by
  cases operator <;> simp [priority]

end Operator

/-! ## Levels that cross -/

/-- There is a multiplicative operator, and a power behind the last one. -/
def EndsInPower (operators : List Operator) : Prop :=
  ∃ early product late,
    operators = early ++ product :: late ∧ product.IsMultiplicative ∧
      (∀ operator ∈ late, ¬operator.IsMultiplicative) ∧
        Operator.power ∈ late

/--
Two additive operators with no other one between them have a multiplicative
operator between them, and a power behind the last such operator.
-/
def Crosses (level : List Operator) : Prop :=
  ∃ front first between second back,
    level = front ++ first :: (between ++ second :: back) ∧
      first.IsAdditive ∧ second.IsAdditive ∧
        (∀ operator ∈ between, ¬operator.IsAdditive) ∧
          EndsInPower between

/-- An operator of the priority has only tighter ones behind it. -/
def Waits (priority : Nat) (operators : List Operator) : Prop :=
  ∃ early waiting late,
    operators = early ++ waiting :: late ∧ waiting.priority = priority ∧
      ∀ operator ∈ late, priority < operator.priority

/-- An element of a list with a last one is the last one, or that stands behind it. -/
theorem exists_of_concat_eq_append
    {α : Type}
    {init front back : List α}
    {last element : α}
    (same : init ++ [last] = front ++ element :: back) :
    (back = [] ∧ init = front ∧ last = element) ∨
      ∃ rest, back = rest ++ [last] ∧ init = front ++ element :: rest := by
  rcases List.eq_nil_or_concat back with rfl | ⟨rest, final, rfl⟩
  · rcases List.append_inj' same rfl with ⟨before, atEnd⟩
    exact .inl ⟨rfl, before, (List.cons.inj atEnd).1⟩
  · rw [List.concat_eq_append, ← List.cons_append, ← List.append_assoc] at same
    rcases List.append_inj' same rfl with ⟨before, atEnd⟩
    rw [(List.cons.inj atEnd).1]
    exact .inr ⟨rest, List.concat_eq_append, before⟩

/-- Of two elements that split a list, the one that does not stand behind the other stands in front of it. -/
theorem exists_middle_of_not_mem
    {α : Type}
    {front back early late : List α}
    {element other : α}
    (split : front ++ element :: back = early ++ other :: late)
    (notBehind : element ∉ other :: late) :
    ∃ middle, back = middle ++ other :: late := by
  rcases List.append_eq_append_iff.1 split with
    ⟨middle, _, behind⟩ | ⟨middle, _, behind⟩
  · cases middle with
    | nil =>
        rw [(List.cons.inj behind).1] at notBehind
        exact absurd List.mem_cons_self notBehind
    | cons _ middle => exact ⟨middle, (List.cons.inj behind).2⟩
  · rw [behind] at notBehind
    exact absurd (List.mem_append_right _ List.mem_cons_self) notBehind

theorem not_waits_nil (priority : Nat) : ¬Waits priority [] := by
  rintro ⟨early, waiting, late, split, _⟩
  exact
    List.append_ne_nil_of_right_ne_nil early (List.cons_ne_nil _ _) split.symm

/-- One more operator waits, and so do the looser ones that waited before. -/
theorem waits_append
    (priority : Nat)
    (operators : List Operator)
    (last : Operator) :
    Waits priority (operators ++ [last]) ↔
      priority = last.priority ∨
        (Waits priority operators ∧ priority < last.priority) := by
  constructor
  · rintro ⟨early, waiting, late, split, isWaiting, tighter⟩
    rcases exists_of_concat_eq_append split with
      ⟨_, _, rfl⟩ | ⟨rest, rfl, before⟩
    · exact .inl isWaiting.symm
    · refine .inr ⟨⟨early, waiting, rest, before, isWaiting, ?_⟩, ?_⟩
      · intro operator member
        exact tighter operator (List.mem_append_left _ member)
      · exact tighter last (List.mem_append_right _ (List.mem_singleton_self _))
  · rintro (same | ⟨⟨early, waiting, late, rfl, isWaiting, tighter⟩, below⟩)
    · exact ⟨operators, last, [], rfl, same.symm, nofun⟩
    · refine ⟨early, waiting, late ++ [last], ?_, isWaiting, ?_⟩
      · rw [List.append_assoc, List.cons_append]
      · intro operator member
        rcases List.mem_append.1 member with inLate | isLast
        · exact tighter operator inLate
        · rw [List.mem_singleton.1 isLast]
          exact below

/-- Where a multiplicative operator and a power wait, the operators end in a power. -/
theorem exists_powers_of_waits
    {operators : List Operator}
    (product : Waits 1 operators)
    (power : Waits 2 operators) :
    ∃ early factor late,
      operators = early ++ factor :: late ∧ factor.priority = 1 ∧
        (∀ operator ∈ late, 1 < operator.priority) ∧
          Operator.power ∈ late := by
  rcases product with ⟨early, factor, late, split, isFactor, tighter⟩
  rcases power with ⟨init, last, behind, splitLast, isPower, noTighter⟩
  refine ⟨early, factor, late, split, isFactor, tighter, ?_⟩
  have atEnd : behind = [] := by
    cases behind with
    | nil => rfl
    | cons other _ =>
        have atMost := other.priority_le_two
        have above := noTighter other List.mem_cons_self
        omega
  rw [← (last.eq_power_iff).2 isPower]
  rw [atEnd] at splitLast
  rcases exists_of_concat_eq_append (splitLast.symm.trans split) with
    ⟨_, _, rfl⟩ | ⟨rest, rfl, _⟩
  · rw [isPower] at isFactor
    cases isFactor
  · exact List.mem_append_right _ (List.mem_singleton_self _)

/-- Where operators of all priorities wait, an additive one is followed by operators that end in a power. -/
theorem exists_between_of_waits
    {operators : List Operator}
    (sum : Waits 0 operators)
    (product : Waits 1 operators)
    (power : Waits 2 operators) :
    ∃ front first between,
      operators = front ++ first :: between ∧ first.IsAdditive ∧
        (∀ operator ∈ between, ¬operator.IsAdditive) ∧
          EndsInPower between := by
  rcases sum with ⟨front, first, between, split, isSum, noSum⟩
  rcases exists_powers_of_waits product power with
    ⟨early, factor, late, splitFactor, isFactor, tighter, powerLate⟩
  -- All operators behind the factor are tighter, so the additive one is in front of it.
  have notBehind : first ∉ factor :: late := by
    intro member
    rcases List.mem_cons.1 member with rfl | further
    · rw [isFactor] at isSum
      cases isSum
    · have above := tighter first further
      rw [isSum] at above
      cases above
  rcases exists_middle_of_not_mem (split.symm.trans splitFactor) notBehind with
    ⟨middle, rfl⟩
  refine
    ⟨front, first, _, split, (first.isAdditive_iff).2 isSum, ?_,
      middle, factor, late, rfl, (factor.isMultiplicative_iff).2 isFactor, ?_,
      powerLate⟩
  · intro operator member isAdditive
    have above := noSum operator member
    rw [(operator.isAdditive_iff).1 isAdditive] at above
    exact Nat.lt_irrefl 0 above
  · intro operator member isMultiplicative
    have above := tighter operator member
    rw [(operator.isMultiplicative_iff).1 isMultiplicative] at above
    exact Nat.lt_irrefl 1 above

/-- Behind an additive operator and others that end in a power, an operator of each priority waits. -/
theorem waits_of_endsInPower
    {front between : List Operator}
    {first : Operator}
    (isAdditive : first.IsAdditive)
    (noOther : ∀ operator ∈ between, ¬operator.IsAdditive)
    (ends : EndsInPower between) :
    Waits 0 (front ++ first :: between) ∧
      Waits 1 (front ++ first :: between) ∧
        Waits 2 (front ++ first :: between) := by
  rcases ends with ⟨early, product, late, rfl, isProduct, noProduct, power⟩
  have arePowers : ∀ operator ∈ late, operator.priority = 2 := by
    intro operator member
    have noSum :=
      noOther operator
        (List.mem_append_right _ (List.mem_cons_of_mem _ member))
    have noFactor := noProduct operator member
    rw [operator.isAdditive_iff] at noSum
    rw [operator.isMultiplicative_iff] at noFactor
    have atMost := operator.priority_le_two
    omega
  refine
    ⟨⟨front, first, _, rfl, (first.isAdditive_iff).1 isAdditive, ?_⟩,
      ⟨front ++ first :: early, product, late, ?_,
        (product.isMultiplicative_iff).1 isProduct, ?_⟩,
      ?_⟩
  · intro operator member
    have noSum := noOther operator member
    rw [operator.isAdditive_iff] at noSum
    exact Nat.pos_of_ne_zero noSum
  · rw [List.append_assoc, List.cons_append]
  · intro operator member
    rw [arePowers operator member]
    decide
  · rcases List.eq_nil_or_concat late with rfl | ⟨init, last, rfl⟩
    · exact absurd power List.not_mem_nil
    · rw [List.concat_eq_append] at arePowers ⊢
      have isPower :=
        arePowers last (List.mem_append_right _ (List.mem_singleton_self _))
      refine
        ⟨front ++ first :: (early ++ product :: init), last, [], ?_, isPower,
          nofun⟩
      rw [List.append_assoc, List.cons_append, List.append_assoc,
        List.cons_append]

theorem not_crosses_nil : ¬Crosses [] := by
  rintro ⟨front, first, between, second, back, split, _⟩
  exact
    List.append_ne_nil_of_right_ne_nil front (List.cons_ne_nil _ _) split.symm

/-- One more operator makes a level cross if it is additive and operators of all priorities wait. -/
theorem crosses_append
    (operators : List Operator)
    (last : Operator) :
    Crosses (operators ++ [last]) ↔
      Crosses operators ∨
        (last.priority = 0 ∧
          Waits 0 operators ∧ Waits 1 operators ∧ Waits 2 operators) := by
  constructor
  · rintro
      ⟨front, first, between, second, back, split, isAdditive, secondAdditive,
        noOther, ends⟩
    rw [← List.cons_append, ← List.append_assoc] at split
    rcases exists_of_concat_eq_append split with
      ⟨_, rfl, rfl⟩ | ⟨rest, _, rfl⟩
    · exact
        .inr
          ⟨(last.isAdditive_iff).1 secondAdditive,
            waits_of_endsInPower isAdditive noOther ends⟩
    · rw [List.append_assoc, List.cons_append]
      exact
        .inl
          ⟨front, first, between, second, rest, rfl, isAdditive,
            secondAdditive, noOther, ends⟩
  · rintro (crosses | ⟨isSum, sum, product, power⟩)
    · rcases crosses with
        ⟨front, first, between, second, back, rfl, isAdditive, secondAdditive,
          noOther, ends⟩
      refine
        ⟨front, first, between, second, back ++ [last], ?_, isAdditive,
          secondAdditive, noOther, ends⟩
      rw [List.append_assoc, List.cons_append, List.append_assoc,
        List.cons_append]
    · rcases exists_between_of_waits sum product power with
        ⟨front, first, between, rfl, isAdditive, noOther, ends⟩
      refine
        ⟨front, first, between, last, [], ?_, isAdditive,
          (last.isAdditive_iff).2 isSum, noOther, ends⟩
      rw [List.append_assoc, List.cons_append]

/-- A level with operators of two priorities at most does not cross. -/
theorem not_crosses_of_two_priorities
    {level : List Operator}
    {low high : Nat}
    (two :
      ∀ operator ∈ level, operator.priority = low ∨ operator.priority = high) :
    ¬Crosses level := by
  rintro
    ⟨front, first, between, second, back, rfl, isAdditive, _, _,
      early, product, late, rfl, isProduct, _, power⟩
  have productMember :
      product ∈ (early ++ product :: late) ++ second :: back :=
    List.mem_append_left _ (List.mem_append_right _ List.mem_cons_self)
  have powerMember :
      Operator.power ∈ (early ++ product :: late) ++ second :: back :=
    List.mem_append_left _
      (List.mem_append_right _ (List.mem_cons_of_mem _ power))
  have ofSum := two first (List.mem_append_right _ List.mem_cons_self)
  have ofProduct :=
    two product (List.mem_append_right _ (List.mem_cons_of_mem _ productMember))
  have ofPower :=
    two .power (List.mem_append_right _ (List.mem_cons_of_mem _ powerMember))
  rw [(first.isAdditive_iff).1 isAdditive] at ofSum
  rw [(product.isMultiplicative_iff).1 isProduct] at ofProduct
  rw [(Operator.power.eq_power_iff).1 rfl] at ofPower
  omega

end Formulary
