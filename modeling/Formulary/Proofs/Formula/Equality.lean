import Formulary.Proofs.Formula.Mapping
import Formulary.Proofs.Number.Equality

/-!
# Equality of formulas

The equality of chains takes pairs of chains from a stack, compares their
operators and operands, and puts the pairs of their groups on it.  It agrees
with the comparison by recursion, in whatever order the pairs are taken.

Where equality of atoms is equality of their keys, two chains are equal
exactly if they have the same shape, the same operators and the same keys:
that is, if mapping the keys makes them one.  `Formula.beq_iff_map_key` says so
of formulas, whose literals are compared as numbers.
-/

namespace Formulary

/-! ## The stack of pairs -/

section

variable {α : Type} [BEq α]

/-- Both sides of every pair are equal by recursion. -/
def allEqual (pairs : List (Chain α × Chain α)) : Bool :=
  pairs.all fun pair => pair.1.equalRecursive pair.2

theorem allEqual_cons
    (left right : Chain α)
    (pairs : List (Chain α × Chain α)) :
    allEqual ((left, right) :: pairs) =
      (left.equalRecursive right && allEqual pairs) :=
  rfl

/-- An atom and a group are not equal. -/
theorem Operand.equalRecursive_atom_group
    (value : α)
    (body : Chain α) :
    (Operand.atom value).equalRecursive (.group body) = false := by
  rw [Operand.equalRecursive]
  · exact nofun
  · exact nofun

theorem Operand.equalRecursive_group_atom
    (body : Chain α)
    (value : α) :
    (Operand.group body).equalRecursive (.atom value) = false := by
  rw [Operand.equalRecursive]
  · exact nofun
  · exact nofun

/-- Operands are equal side by side if they can be compared and the pairs of their groups are equal. -/
theorem Chain.compareOperands_eq
    (lefts rights : List (Operand α))
    (pairs : List (Chain α × Chain α)) :
    ((compareOperands lefts rights pairs).map allEqual).getD false =
      ((lefts.zip rights).all (fun pair => pair.1.equalRecursive pair.2) &&
        allEqual pairs) := by
  fun_induction compareOperands lefts rights pairs with
  | case1 left lefts right rights pairs hypothesis =>
      rw [hypothesis, List.zip_cons_cons, List.all_cons, allEqual_cons,
        Operand.equalRecursive, Bool.and_left_comm, Bool.and_assoc]
  | case2 left lefts right rights pairs same hypothesis =>
      rw [hypothesis, List.zip_cons_cons, List.all_cons,
        Operand.equalRecursive, same, Bool.true_and]
  | case3 left lefts right rights pairs differ =>
      rw [List.zip_cons_cons, List.all_cons, Operand.equalRecursive,
        Bool.eq_false_iff.2 differ, Bool.false_and, Bool.false_and]
      rfl
  | case4 left lefts right rights pairs =>
      rw [List.zip_cons_cons, List.all_cons,
        Operand.equalRecursive_atom_group, Bool.false_and, Bool.false_and]
      rfl
  | case5 left lefts right rights pairs =>
      rw [List.zip_cons_cons, List.all_cons,
        Operand.equalRecursive_group_atom, Bool.false_and, Bool.false_and]
      rfl
  | case6 rights pairs =>
      rw [List.zip_nil_left, List.all_nil, Bool.true_and]
      rfl
  | case7 left lefts pairs =>
      rw [List.zip_nil_right, List.all_nil, Bool.true_and]
      rfl

/-- Chains are equal if they have the same operators and operands that are equal side by side. -/
theorem Chain.equalRecursive_eq
    (left right : Chain α) :
    left.equalRecursive right =
      (decide (left.operators = right.operators) &&
        (left.operands.zip right.operands).all fun pair =>
          pair.1.equalRecursive pair.2) := by
  induction left generalizing right with
  | single left =>
      cases right with
      | single right =>
          rw [Chain.equalRecursive]
          exact (Bool.and_true _).symm
      | link before operator right =>
          rw [Chain.equalRecursive, Chain.operators_link,
            Chain.operators_single, decide_eq_false, Bool.false_and]
          · exact (List.append_ne_nil_of_right_ne_nil _
              (List.cons_ne_nil operator [])).symm
          · exact nofun
          · exact nofun
  | link leftBefore leftOperator left hypothesis =>
      cases right with
      | single right =>
          rw [Chain.equalRecursive, Chain.operators_link,
            Chain.operators_single, decide_eq_false, Bool.false_and]
          · exact List.append_ne_nil_of_right_ne_nil _
              (List.cons_ne_nil leftOperator [])
          · exact nofun
          · exact nofun
      | link rightBefore rightOperator right =>
          rw [Chain.equalRecursive, hypothesis rightBefore,
            Chain.operators_link, Chain.operators_link, Chain.operands_link,
            Chain.operands_link]
          by_cases sameBefore : leftBefore.operators = rightBefore.operators
          · have sameLength :
                leftBefore.operands.length = rightBefore.operands.length := by
              rw [Chain.length_operands, Chain.length_operands, sameBefore]
            rw [List.zip_append sameLength, List.all_append, sameBefore]
            simp only [List.append_cancel_left_eq, List.cons.injEq, and_true,
              List.zip_cons_cons, List.zip_nil_left, List.all_cons,
              List.all_nil, decide_true, Bool.true_and, Bool.and_true]
            rw [Bool.and_assoc, Bool.and_comm (Operand.equalRecursive _ _)]
            rfl
          · have differ :
                leftBefore.operators ++ [leftOperator] ≠
                  rightBefore.operators ++ [rightOperator] := by
              intro same
              exact sameBefore (List.append_inj' same rfl).1
            rw [decide_eq_false sameBefore, decide_eq_false differ,
              Bool.false_and, Bool.and_false, Bool.false_and]

/-- The stack has equal pairs only exactly if recursion finds every pair equal. -/
theorem Chain.equalPairs_eq
    (pairs : List (Chain α × Chain α)) :
    Chain.equalPairs pairs = allEqual pairs := by
  fun_induction Chain.equalPairs pairs with
  | case1 => rfl
  | case2 left right pairs same further compared lighter hypothesis =>
      have operands :=
        Chain.compareOperands_eq left.operands right.operands pairs
      rw [compared] at operands
      rw [hypothesis, allEqual_cons, Chain.equalRecursive_eq,
        decide_eq_true same.1, Bool.true_and]
      exact operands
  | case3 left right pairs same compared =>
      have operands :=
        Chain.compareOperands_eq left.operands right.operands pairs
      rw [compared] at operands
      rw [allEqual_cons, Chain.equalRecursive_eq, decide_eq_true same.1,
        Bool.true_and]
      exact operands
  | case4 left right pairs differ =>
      have otherOperators : left.operators ≠ right.operators := by
        intro same
        apply differ
        rw [Chain.length_operands, Chain.length_operands, same]
        exact ⟨rfl, rfl⟩
      rw [allEqual_cons, Chain.equalRecursive_eq,
        decide_eq_false otherOperators, Bool.false_and, Bool.false_and]

/-- Equality of chains is equality by recursion. -/
theorem Chain.beq_eq_equalRecursive
    (left right : Chain α) :
    (left == right) = left.equalRecursive right := by
  show Chain.equalPairs [(left, right)] = _
  rw [Chain.equalPairs_eq, allEqual, List.all_cons, List.all_nil,
    Bool.and_true]

end

/-! ## Equality by keys -/

section

variable {α κ : Type} [BEq α] {key : α → κ}

mutual

/-- Chains are equal if they have the same keys in the same places. -/
theorem Chain.equalRecursive_iff_map
    (keyed : ∀ left right : α, (left == right) = true ↔ key left = key right) :
    (left right : Chain α) →
    (left.equalRecursive right = true ↔ left.map key = right.map key)
  | .single left, .single right => by
      rw [Chain.equalRecursive, Chain.map_single, Chain.map_single,
        Chain.single.injEq]
      exact Operand.equalRecursive_iff_map keyed left right
  | .single left, .link before operator right => by
      rw [Chain.equalRecursive, Chain.map_single, Chain.map_link]
      · exact ⟨nofun, nofun⟩
      · exact nofun
      · exact nofun
  | .link before operator left, .single right => by
      rw [Chain.equalRecursive, Chain.map_single, Chain.map_link]
      · exact ⟨nofun, nofun⟩
      · exact nofun
      · exact nofun
  | .link leftBefore leftOperator left, .link rightBefore rightOperator right => by
      rw [Chain.equalRecursive, Chain.map_link, Chain.map_link,
        Chain.link.injEq, Bool.and_eq_true, Bool.and_eq_true, beq_iff_eq,
        Operand.equalRecursive_iff_map keyed left right,
        Chain.equalRecursive_iff_map keyed leftBefore rightBefore]
      constructor
      · rintro ⟨⟨sameOperator, sameOperand⟩, sameBefore⟩
        exact ⟨sameBefore, sameOperator, sameOperand⟩
      · rintro ⟨sameBefore, sameOperator, sameOperand⟩
        exact ⟨⟨sameOperator, sameOperand⟩, sameBefore⟩

/-- Operands are equal if they have the same keys in the same places. -/
theorem Operand.equalRecursive_iff_map
    (keyed : ∀ left right : α, (left == right) = true ↔ key left = key right) :
    (left right : Operand α) →
    (left.equalRecursive right = true ↔ left.map key = right.map key)
  | .atom left, .atom right => by
      rw [Operand.equalRecursive, keyed, Operand.map_atom, Operand.map_atom,
        Operand.atom.injEq]
  | .atom left, .group right => by
      rw [Operand.equalRecursive, Operand.map_atom, Operand.map_group]
      · exact ⟨nofun, nofun⟩
      · exact nofun
      · exact nofun
  | .group left, .atom right => by
      rw [Operand.equalRecursive, Operand.map_atom, Operand.map_group]
      · exact ⟨nofun, nofun⟩
      · exact nofun
      · exact nofun
  | .group left, .group right => by
      rw [Operand.equalRecursive, Operand.map_group, Operand.map_group,
        Operand.group.injEq]
      exact Chain.equalRecursive_iff_map keyed left right

end

end

/-! ## Equality of formulas -/

namespace Atom

/-- Atoms that equality does not tell apart have the same key. -/
inductive Key where
  | literal (key : Number.Key)
  | variable (index : Nat)

/-- What equality of atoms looks at. -/
def key : Atom → Key
  | .literal value => .literal value.key
  | .variable index => .variable index

/-- Equality of atoms is equality of keys. -/
theorem beq_iff_key
    (left right : Atom) :
    (left == right) = true ↔ left.key = right.key := by
  match left, right with
  | .literal left, .literal right =>
      rw [key, key, Key.literal.injEq]
      exact Number.beq_iff_key left right
  | .literal left, .variable right => exact ⟨nofun, nofun⟩
  | .variable left, .literal right => exact ⟨nofun, nofun⟩
  | .variable left, .variable right =>
      rw [key, key, Key.variable.injEq]
      show (left == right) = true ↔ left = right
      exact beq_iff_eq

end Atom

/-- Formulas are equal if they have the same shape, operators and variables, and equal numbers. -/
theorem Formula.beq_iff_map_key
    (left right : Formula) :
    (left == right) = true ↔ left.map Atom.key = right.map Atom.key := by
  rw [Chain.beq_eq_equalRecursive,
    Chain.equalRecursive_iff_map Atom.beq_iff_key]

end Formulary
