import Formulary.Parsing.Brackets
import Formulary.Proofs.Grammar.Unambiguity

/-!
# Matching brackets

`closingDistance` looks for the bracket that closes an opening one: it reads
on from there, counts how many brackets are open, and stops at the first
closing bracket that finds none.  `closingPositions_getElem?` says that the
one pass of `closingPositions` finds the same bracket for every opening one.

The expressions of the grammar are balanced, so the bracket in front of one
is closed by the bracket behind it.
-/

namespace Formulary

/-- The number of open brackets behind a character. -/
def openedBehind (opened : Nat) (character : Char) : Nat :=
  if character = '(' then opened + 1
  else if character = ')' then opened - 1
  else opened

/--
The number of characters in front of the bracket that closes a group, where
the text begins inside the group and `depth` brackets are open in it.
-/
def closingDistance : (depth : Nat) → (text : List Char) → Option Nat
  | _, [] => none
  | depth, '(' :: text => (closingDistance (depth + 1) text).map (· + 1)
  | 0, ')' :: _ => some 0
  | depth + 1, ')' :: text => (closingDistance depth text).map (· + 1)
  | depth, _ :: text => (closingDistance depth text).map (· + 1)

theorem closingDistance_cons_of_ne
    {character : Char}
    (notOpening : character ≠ '(')
    (notClosing : character ≠ ')')
    (depth : Nat)
    (text : List Char) :
    closingDistance depth (character :: text) =
      (closingDistance depth text).map (· + 1) := by
  rw [closingDistance]
  · exact notOpening
  · intro _
    exact notClosing
  · intro _ _
    exact notClosing

/-- A count goes on behind every character but a closing bracket that finds none open. -/
theorem closingDistance_cons
    (depth : Nat)
    (character : Char)
    (text : List Char) :
    closingDistance depth (character :: text) =
      if character = ')' ∧ depth = 0 then
        some 0
      else
        (closingDistance (openedBehind depth character) text).map (· + 1) := by
  by_cases opens : character = '('
  · subst opens
    rfl
  · by_cases closes : character = ')'
    · subst closes
      cases depth with
      | zero => rfl
      | succ depth => rfl
    · rw [closingDistance_cons_of_ne opens closes, openedBehind, if_neg opens,
        if_neg closes, if_neg fun both => closes both.1]

/-- The character at the distance found is a closing bracket. -/
theorem getElem?_of_closingDistance
    {depth distance : Nat}
    {text : List Char}
    (found : closingDistance depth text = some distance) :
    text[distance]? = some ')' := by
  induction text generalizing depth distance with
  | nil => simp [closingDistance] at found
  | cons character text hypothesis =>
      rw [closingDistance_cons] at found
      split at found
      · rename_i last
        cases found
        rw [last.1, List.getElem?_cons_zero]
      · rcases Option.map_eq_some_iff.1 found with ⟨before, reached, rfl⟩
        rw [List.getElem?_cons_succ]
        exact hypothesis reached

/-- A bracket is found in the front of a text where it is found in the text, if it stands there. -/
theorem closingDistance_eq_some_iff_append
    {depth distance : Nat}
    {front : List Char}
    (behind : List Char) :
    closingDistance depth front = some distance ↔
      closingDistance depth (front ++ behind) = some distance ∧
        distance < front.length := by
  induction front generalizing depth distance with
  | nil => simp [closingDistance]
  | cons character front hypothesis =>
      rw [List.cons_append, closingDistance_cons, closingDistance_cons,
        List.length_cons]
      split
      · rw [Option.some.injEq]
        omega
      · simp only [Option.map_eq_some_iff, hypothesis]
        constructor
        · rintro ⟨before, ⟨found, inside⟩, rfl⟩
          exact ⟨⟨before, found, rfl⟩, Nat.succ_lt_succ inside⟩
        · rintro ⟨⟨before, found, rfl⟩, inside⟩
          exact ⟨before, ⟨found, Nat.lt_of_succ_lt_succ inside⟩, rfl⟩

/-- Brackets further out stay open behind a character, unless it finds no others. -/
theorem openedBehind_add
    {opened : Nat}
    {character : Char}
    (goesOn : ¬(character = ')' ∧ opened = 0))
    (outer : Nat) :
    openedBehind (opened + outer) character =
      openedBehind opened character + outer := by
  unfold openedBehind
  split
  · omega
  · split
    · rename_i closes
      have positive : opened ≠ 0 := fun none => goesOn ⟨closes, none⟩
      omega
    · rfl

/--
Where more brackets are open, the inner ones are closed first, and the others
behind them.
-/
theorem closingDistance_add
    (inner depth : Nat)
    (text : List Char) :
    closingDistance (inner + (depth + 1)) text =
      (closingDistance inner text).bind fun distance =>
        (closingDistance depth (text.drop (distance + 1))).map
          (· + (distance + 1)) := by
  induction text generalizing inner with
  | nil => rfl
  | cons character text hypothesis =>
      by_cases last : character = ')' ∧ inner = 0
      · rcases last with ⟨rfl, rfl⟩
        rw [Nat.zero_add, closingDistance, closingDistance, Option.bind_some]
        rfl
      · have outer : ¬(character = ')' ∧ inner + (depth + 1) = 0) :=
          fun none => Nat.succ_ne_zero _ none.2
        rw [closingDistance_cons, closingDistance_cons, if_neg outer,
          if_neg last, openedBehind_add last, hypothesis]
        cases closingDistance (openedBehind inner character) text with
        | none => rfl
        | some distance =>
            rw [Option.bind_some, Option.map_some, Option.bind_some,
              Option.map_map, List.drop_succ_cons]
            rfl

/-- A bracket that opens is closed in front of those that were open before it. -/
theorem exists_of_closingDistance_opening
    {depth distance : Nat}
    {text : List Char}
    (found : closingDistance depth ('(' :: text) = some distance) :
    ∃ inner, closingDistance 0 text = some inner ∧ inner + 1 < distance := by
  rw [closingDistance, ← Nat.zero_add (depth + 1), closingDistance_add] at found
  rcases Option.map_eq_some_iff.1 found with ⟨before, inside, rfl⟩
  rcases Option.bind_eq_some_iff.1 inside with ⟨inner, own, further⟩
  rcases Option.map_eq_some_iff.1 further with ⟨others, _, rfl⟩
  exact ⟨inner, own, by omega⟩

/-- A distance counted from the next position is one less. -/
theorem shift_distance
    (position : Nat)
    (distance : Option Nat) :
    (distance.map (· + 1)).map (position + ·) =
      distance.map (position + 1 + ·) := by
  cases distance with
  | none => rfl
  | some distance =>
      simp only [Option.map_some, Option.some.injEq]
      omega

/-! ## The pass over a text -/

/-- The positions of the open brackets lie behind each other, the last one in front. -/
def OpenBefore (position : Nat) (opened : List Nat) : Prop :=
  (position :: opened).Pairwise (· > ·)

namespace OpenBefore

variable {position first : Nat} {opened : List Nat}

theorem lt
    (ordered : OpenBefore position opened)
    {index : Nat}
    (member : index ∈ opened) :
    index < position :=
  List.rel_of_pairwise_cons ordered member

theorem keep
    (ordered : OpenBefore position opened) :
    OpenBefore (position + 1) opened := by
  apply List.Pairwise.cons _ ordered.of_cons
  intro earlier member
  exact Nat.lt_succ_of_lt (ordered.lt member)

theorem push
    (ordered : OpenBefore position opened) :
    OpenBefore (position + 1) (position :: opened) := by
  apply List.Pairwise.cons _ ordered
  intro earlier member
  rcases List.mem_cons.1 member with rfl | inside
  · exact Nat.lt_succ_self _
  · exact Nat.lt_succ_of_lt (ordered.lt inside)

theorem inner
    (ordered : OpenBefore position (first :: opened)) :
    OpenBefore first opened :=
  ordered.of_cons

theorem pop
    (ordered : OpenBefore position (first :: opened)) :
    OpenBefore (position + 1) opened := by
  apply List.Pairwise.cons _ ordered.of_cons.of_cons
  intro earlier member
  exact Nat.lt_succ_of_lt (ordered.lt (List.mem_cons_of_mem _ member))

end OpenBefore

section

variable {text : List Char} {position : Nat} {opened : List Nat}
variable {closings : Array (Option Nat)}

/-- Only the entries of brackets change that are open in front of a text or open in it. -/
theorem noteClosings_getElem?_of_unopened
    {index : Nat}
    (closed : index ∉ opened)
    (unopened : ∀ place, position + place = index → text[place]? ≠ some '(') :
    (noteClosings text position opened closings)[index]? = closings[index]? := by
  have behind
      {first : Char}
      {rest : List Char}
      {start : Nat}
      (plain :
        ∀ place, start + place = index → (first :: rest)[place]? ≠ some '(')
      (place : Nat)
      (same : start + 1 + place = index) :
      rest[place]? ≠ some '(' := by
    rw [← List.getElem?_cons_succ (a := first)]
    exact plain (place + 1) (by omega)
  fun_induction noteClosings text position opened closings with
  | case1 => rfl
  | case2 text position opened closings hypothesis =>
      apply hypothesis _ (behind unopened)
      rw [List.mem_cons, not_or]
      refine ⟨?_, closed⟩
      rintro rfl
      exact unopened 0 rfl List.getElem?_cons_zero
  | case3 text position first opened closings hypothesis =>
      rw [List.mem_cons, not_or] at closed
      rw [hypothesis closed.2 (behind unopened),
        Array.getElem?_setIfInBounds_ne (Ne.symm closed.1)]
  | case4 character text position opened closings _ _ hypothesis =>
      exact hypothesis closed (behind unopened)

/-- Only the entries of open brackets change at positions that have been passed. -/
theorem noteClosings_getElem?_of_not_mem
    {index : Nat}
    (passed : index < position)
    (closed : index ∉ opened) :
    (noteClosings text position opened closings)[index]? = closings[index]? := by
  apply noteClosings_getElem?_of_unopened closed
  intro place same
  omega

/--
An open bracket gets the position at which a count of brackets closes it.
The brackets open inside of it are those in front of it in the list.
-/
theorem noteClosings_getElem?_of_opened
    {depth index : Nat}
    (ordered : OpenBefore position opened)
    (place : opened[depth]? = some index)
    (free : closings[index]? = some none) :
    (noteClosings text position opened closings)[index]? =
      some ((closingDistance depth text).map (position + ·)) := by
  fun_induction noteClosings text position opened closings generalizing depth with
  | case1 => simpa [closingDistance] using free
  | case2 text position opened closings hypothesis =>
      have deeper : (position :: opened)[depth + 1]? = some index := place
      rw [hypothesis ordered.push deeper free, closingDistance, shift_distance]
  | case3 text position first opened closings hypothesis =>
      cases depth with
      | zero =>
          simp only [List.getElem?_cons_zero, Option.some.injEq] at place
          subst place
          have passed : first < position := ordered.lt List.mem_cons_self
          have closed : first ∉ opened := fun member =>
            Nat.lt_irrefl _ (ordered.inner.lt member)
          rcases Array.getElem?_eq_some_iff.1 free with ⟨inBounds, _⟩
          rw [noteClosings_getElem?_of_not_mem (Nat.lt_succ_of_lt passed) closed,
            Array.getElem?_setIfInBounds_self_of_lt inBounds]
          simp [closingDistance]
      | succ depth =>
          rw [List.getElem?_cons_succ] at place
          have below : index < first :=
            ordered.inner.lt (List.mem_of_getElem? place)
          have kept :
              (closings.setIfInBounds first (some position))[index]? =
                some none := by
            rw [Array.getElem?_setIfInBounds_ne (Nat.ne_of_gt below)]
            exact free
          rw [hypothesis ordered.pop place kept, closingDistance, shift_distance]
  | case4 character text position opened closings notOpening notClosing hypothesis =>
      have plain : character ≠ ')' := by
        rintro rfl
        cases opened with
        | nil => simp at place
        | cons first opened => exact notClosing first opened rfl rfl
      rw [hypothesis ordered.keep place free,
        closingDistance_cons_of_ne notOpening plain, shift_distance]

/-- An opening bracket that the pass comes to gets the position of the bracket that closes it. -/
theorem noteClosings_getElem?_of_opening
    {place : Nat}
    (ordered : OpenBefore position opened)
    (opening : text[place]? = some '(')
    (free : closings[position + place]? = some none) :
    (noteClosings text position opened closings)[position + place]? =
      some
        ((closingDistance 0 (text.drop (place + 1))).map
          (position + place + 1 + ·)) := by
  fun_induction noteClosings text position opened closings generalizing place with
  | case1 => simp at opening
  | case2 text position opened closings hypothesis =>
      cases place with
      | zero =>
          exact
            noteClosings_getElem?_of_opened ordered.push
              List.getElem?_cons_zero free
      | succ place =>
          have shift : position + (place + 1) = position + 1 + place := by omega
          rw [List.getElem?_cons_succ] at opening
          rw [shift] at free ⊢
          exact hypothesis ordered.push opening free
  | case3 text position first opened closings hypothesis =>
      cases place with
      | zero => simp at opening
      | succ place =>
          have shift : position + (place + 1) = position + 1 + place := by omega
          rw [List.getElem?_cons_succ] at opening
          rw [shift] at free ⊢
          have earlier : first < position := ordered.lt List.mem_cons_self
          have kept :
              (closings.setIfInBounds first (some position))[position + 1 + place]? =
                some none := by
            rw [Array.getElem?_setIfInBounds_ne (by omega)]
            exact free
          exact hypothesis ordered.pop opening kept
  | case4 character text position opened closings notOpening _ hypothesis =>
      cases place with
      | zero =>
          simp only [List.getElem?_cons_zero, Option.some.injEq] at opening
          exact absurd opening notOpening
      | succ place =>
          have shift : position + (place + 1) = position + 1 + place := by omega
          rw [List.getElem?_cons_succ] at opening
          rw [shift] at free ⊢
          exact hypothesis ordered.keep opening free

end

/-- The closing bracket of every opening one is the one that a count of brackets finds. -/
theorem closingPositions_getElem?
    {text : List Char}
    {place : Nat}
    (opening : text[place]? = some '(') :
    (closingPositions text)[place]? =
      some
        ((closingDistance 0 (text.drop (place + 1))).map (place + 1 + ·)) := by
  have inBounds : place < text.length := (List.getElem?_eq_some_iff.1 opening).1
  have ordered : OpenBefore 0 [] := List.pairwise_singleton _ _
  have free :
      (Array.replicate text.length (none : Option Nat))[0 + place]? =
        some none := by
    rw [Nat.zero_add, Array.getElem?_replicate, if_pos inBounds]
  have noted := noteClosings_getElem?_of_opening ordered opening free
  rw [Nat.zero_add] at noted
  exact noted

/-- There is no closing bracket for another character. -/
theorem closingPositions_getElem?_of_ne
    {text : List Char}
    {place : Nat}
    (inBounds : place < text.length)
    (plain : text[place]? ≠ some '(') :
    (closingPositions text)[place]? = some none := by
  rw [closingPositions, noteClosings_getElem?_of_unopened List.not_mem_nil,
    Array.getElem?_replicate, if_pos inBounds]
  intro other same
  rw [Nat.zero_add] at same
  rw [same]
  exact plain

/-! ## Balance of expressions -/

/-- Text without brackets does not change the count. -/
theorem closingDistance_append_of_plain
    {front : List Char}
    (plain : ∀ character ∈ front, character ≠ '(' ∧ character ≠ ')')
    (depth : Nat)
    (rest : List Char) :
    closingDistance depth (front ++ rest) =
      (closingDistance depth rest).map (· + front.length) := by
  induction front with
  | nil => simp
  | cons character front hypothesis =>
      rcases plain character List.mem_cons_self with ⟨notOpening, notClosing⟩
      rw [List.cons_append, closingDistance_cons_of_ne notOpening notClosing,
        hypothesis fun other member =>
          plain other (List.mem_cons_of_mem _ member),
        Option.map_map]
      rfl

theorem Word.closingDistance_append
    (word : Word)
    (depth : Nat)
    (rest : List Char) :
    closingDistance depth (word.text ++ rest) =
      (closingDistance depth rest).map (· + word.text.length) := by
  apply closingDistance_append_of_plain
  intro character member
  have inside := word.isWordCharacter_of_mem character member
  constructor
  · rintro rfl
    exact absurd inside (by decide)
  · rintro rfl
    exact absurd inside (by decide)

theorem Operator.closingDistance_cons
    (operator : Operator)
    (depth : Nat)
    (rest : List Char) :
    closingDistance depth (operator.symbol :: rest) =
      (closingDistance depth rest).map (· + 1) := by
  apply closingDistance_cons_of_ne <;> cases operator <;> decide

mutual

/-- As many brackets are open behind an expression as in front of it. -/
theorem Expression.closingDistance_append :
    (expression : Expression) →
    (depth : Nat) →
    (rest : List Char) →
    closingDistance depth (expression.text ++ rest) =
      (closingDistance depth rest).map (· + expression.text.length)
  | .single operand, depth, rest => by
      rw [Expression.text_single]
      exact operand.closingDistance_append depth rest
  | .link before operator operand, depth, rest => by
      rw [Expression.text_link, List.append_assoc, List.cons_append,
        Expression.closingDistance_append before,
        operator.closingDistance_cons, operand.closingDistance_append,
        Option.map_map, Option.map_map]
      congr 1
      funext distance
      simp only [Function.comp_apply, List.length_append, List.length_cons]
      omega

/-- As many brackets are open behind an operand as in front of it. -/
theorem Operand.closingDistance_append :
    (operand : Operand Word) →
    (depth : Nat) →
    (rest : List Char) →
    closingDistance depth (operand.text ++ rest) =
      (closingDistance depth rest).map (· + operand.text.length)
  | .atom word, depth, rest => by
      rw [Operand.text_atom]
      exact word.closingDistance_append depth rest
  | .group body, depth, rest => by
      rw [Operand.text_group, List.cons_append, List.append_assoc,
        List.singleton_append, closingDistance,
        Expression.closingDistance_append body, closingDistance,
        Option.map_map, Option.map_map]
      congr 1
      funext distance
      simp only [Function.comp_apply, List.length_append, List.length_cons,
        List.length_nil]
      omega

end

/-- The bracket in front of an expression is closed by the bracket behind it. -/
theorem closingDistance_expression
    (expression : Expression)
    (rest : List Char) :
    closingDistance 0 (expression.text ++ ')' :: rest) =
      some expression.text.length := by
  rw [expression.closingDistance_append, closingDistance, Option.map_some,
    Nat.zero_add]

end Formulary
