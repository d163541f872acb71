import Formulary.Proofs.Parsing.Ancestors
import Formulary.Proofs.Parsing.Turns

/-!
# Pairs of brackets

`closingPositions` pairs the brackets of a text in one pass, with the open ones
on a stack.  `ReturnsAt` says the same with a count of depth from each opening
bracket on, which is given by the numbers of brackets in a passage of the text.
The text may be any row of characters; brackets that belong to no other one are
left out by both.

`closingDistance` stands between the two: it is what the pass finds for a
bracket, and it finds the first place at which the depth is zero.

Pairs nest.  So a level of a parse, which is the whole text or stands between
two brackets of a pair, has the closing bracket of every pair that opens in it,
and a reader that comes to an opening bracket finds the other one in front of
the end of its level.
-/

namespace Formulary

/-! ## The depth of brackets -/

/-- How many more brackets a passage opens than it closes. -/
def openedBy (passage : List Char) : Int :=
  passage.count '(' - passage.count ')'

/-- The depth behind a place, where brackets are counted from a start on. -/
def depthBehind (text : List Char) (start place : Nat) : Int :=
  openedBy ((text.drop start).take (place + 1 - start))

/-- The depth counted from a start on comes back to zero behind a place, and not before. -/
structure ReturnsAt (text : List Char) (start place : Nat) : Prop where
  behind : start < place
  inside : place < text.length
  returned : depthBehind text start place = 0
  first :
    ∀ between,
      start < between → between < place → depthBehind text start between ≠ 0

theorem openedBy_cons
    (character : Char)
    (passage : List Char) :
    openedBy (character :: passage) =
      openedBy [character] + openedBy passage := by
  simp only [openedBy, ← List.singleton_append (l := passage),
    List.count_append]
  omega

/-- Behind an opening bracket the depth is one more than what the passage from there on opens. -/
theorem depthBehind_of_opening
    {text : List Char}
    {start : Nat}
    (opening : text[start]? = some '(')
    (distance : Nat) :
    depthBehind text start (start + 1 + distance) =
      1 + openedBy ((text.drop (start + 1)).take (distance + 1)) := by
  rcases List.getElem?_eq_some_iff.1 opening with ⟨inBounds, same⟩
  have length : start + 1 + distance + 1 - start = distance + 1 + 1 := by omega
  rw [depthBehind, List.drop_eq_getElem_cons inBounds, same, length,
    List.take_succ_cons, openedBy_cons]
  rfl

/-- A depth, with what a text opens from there on, comes to zero behind the character at a distance. -/
structure ComesToZero
    (depth : Int)
    (text : List Char)
    (distance : Nat) :
    Prop where
  inside : distance < text.length
  zero : depth + openedBy (text.take (distance + 1)) = 0
  first : ∀ before < distance, depth + openedBy (text.take (before + 1)) ≠ 0

namespace ComesToZero

variable {depth : Int} {character : Char} {text : List Char}

theorem zero_iff :
    ComesToZero depth (character :: text) 0 ↔
      depth + openedBy [character] = 0 := by
  constructor
  · intro comes
    exact comes.zero
  · intro zero
    exact ⟨Nat.succ_pos _, zero, nofun⟩

/-- The count goes on behind the first character, if it does not come to zero there. -/
theorem succ_iff
    {distance : Nat} :
    ComesToZero depth (character :: text) (distance + 1) ↔
      depth + openedBy [character] ≠ 0 ∧
        ComesToZero (depth + openedBy [character]) text distance := by
  have shift
      (place : Nat) :
      depth + openedBy ((character :: text).take (place + 1 + 1)) =
        depth + openedBy [character] + openedBy (text.take (place + 1)) := by
    rw [List.take_succ_cons, openedBy_cons, Int.add_assoc]
  constructor
  · intro comes
    refine ⟨comes.first 0 (Nat.succ_pos _), ?_, ?_, ?_⟩
    · exact Nat.lt_of_succ_lt_succ comes.inside
    · rw [← shift]
      exact comes.zero
    · intro before inFront
      rw [← shift]
      exact comes.first (before + 1) (Nat.succ_lt_succ inFront)
  · rintro ⟨notYet, comes⟩
    refine ⟨Nat.succ_lt_succ comes.inside, ?_, ?_⟩
    · rw [shift]
      exact comes.zero
    · intro before inFront
      cases before with
      | zero => exact notYet
      | succ before =>
          rw [shift]
          exact comes.first before (Nat.lt_of_succ_lt_succ inFront)

end ComesToZero

/-- Behind a character those brackets are open that were before it, and what it opens. -/
theorem openedBehind_eq_add
    {depth : Nat}
    {character : Char}
    (goesOn : ¬(character = ')' ∧ depth = 0)) :
    (openedBehind depth character : Int) = depth + openedBy [character] := by
  by_cases opens : character = '('
  · subst opens
    rfl
  · by_cases closes : character = ')'
    · subst closes
      have positive : depth ≠ 0 := fun none => goesOn ⟨rfl, none⟩
      have lower : openedBehind depth ')' = depth - 1 := rfl
      have closed : openedBy [')'] = -1 := rfl
      omega
    · rw [openedBehind, if_neg opens, if_neg closes, openedBy,
        List.count_singleton, List.count_singleton]
      simp [opens, closes]

/-- The closing bracket of a group stands where the depth comes to zero. -/
theorem closingDistance_eq_some_iff
    {depth distance : Nat}
    {text : List Char} :
    closingDistance depth text = some distance ↔
      ComesToZero (depth + 1) text distance := by
  -- The bracket of the group itself is open too, which `closingDistance` does not count.
  induction text generalizing depth distance with
  | nil =>
      constructor
      · intro found
        cases found
      · intro comes
        exact absurd comes.inside (Nat.not_lt_zero _)
  | cons character text hypothesis =>
      rw [closingDistance_cons]
      split
      · rename_i last
        rcases last with ⟨rfl, rfl⟩
        cases distance with
        | zero => exact iff_of_true rfl (ComesToZero.zero_iff.2 rfl)
        | succ distance =>
            rw [ComesToZero.succ_iff]
            exact iff_of_false nofun fun comes => comes.1 rfl
      · rename_i goesOn
        have counted :
            (depth : Int) + 1 + openedBy [character] =
              openedBehind depth character + 1 := by
          rw [openedBehind_eq_add goesOn]
          omega
        rw [Option.map_eq_some_iff]
        cases distance with
        | zero =>
            rw [ComesToZero.zero_iff, counted]
            constructor
            · rintro ⟨_, _, same⟩
              cases same
            · intro zero
              omega
        | succ distance =>
            rw [ComesToZero.succ_iff, counted, ← hypothesis]
            constructor
            · rintro ⟨before, found, same⟩
              cases same
              exact ⟨by omega, found⟩
            · rintro ⟨_, found⟩
              exact ⟨distance, found, rfl⟩

/-- A count from an opening bracket on finds the place at which the depth comes back to zero. -/
theorem returnsAt_iff
    {text : List Char}
    {start : Nat}
    (opening : text[start]? = some '(')
    (distance : Nat) :
    ReturnsAt text start (start + 1 + distance) ↔
      closingDistance 0 (text.drop (start + 1)) = some distance := by
  rw [closingDistance_eq_some_iff]
  constructor
  · intro returns
    have inside := returns.inside
    refine ⟨?_, ?_, ?_⟩
    · rw [List.length_drop]
      omega
    · have returned := returns.returned
      rw [depthBehind_of_opening opening] at returned
      exact returned
    · intro before inFront
      have notYet := returns.first (start + 1 + before) (by omega) (by omega)
      rw [depthBehind_of_opening opening] at notYet
      exact notYet
  · intro comes
    have inside := comes.inside
    rw [List.length_drop] at inside
    refine ⟨by omega, by omega, ?_, ?_⟩
    · rw [depthBehind_of_opening opening]
      exact comes.zero
    · intro between behind inFront
      obtain ⟨before, rfl⟩ := Nat.exists_eq_add_of_le (Nat.succ_le_of_lt behind)
      rw [Nat.succ_eq_add_one, depthBehind_of_opening opening]
      exact comes.first before (by omega)

/-! ## Pairs -/

/-- The pass over a text pairs the brackets at two places. -/
def Paired (text : List Char) (opening closing : Nat) : Prop :=
  (closingPositions text)[opening]? = some (some closing)

/-- The closing bracket of a pair is the one that is counted from the opening one. -/
theorem paired_iff
    {text : List Char}
    {opening closing : Nat} :
    Paired text opening closing ↔
      text[opening]? = some '(' ∧
        ∃ distance,
          closingDistance 0 (text.drop (opening + 1)) = some distance ∧
            opening + 1 + distance = closing := by
  by_cases opens : text[opening]? = some '('
  · rw [Paired, closingPositions_getElem? opens, Option.some.injEq,
      Option.map_eq_some_iff]
    exact ⟨fun found => ⟨opens, found⟩, fun found => found.2⟩
  · refine iff_of_false ?_ fun found => opens found.1
    intro paired
    have inBounds := (Array.getElem?_eq_some_iff.1 paired).1
    rw [size_closingPositions] at inBounds
    rw [Paired, closingPositions_getElem?_of_ne inBounds opens] at paired
    cases paired

/-- The pass finds the place at which the depth counted from a bracket on comes back to zero. -/
theorem paired_iff_returnsAt
    {text : List Char}
    {opening : Nat}
    (opens : text[opening]? = some '(')
    (closing : Nat) :
    Paired text opening closing ↔ ReturnsAt text opening closing := by
  rw [paired_iff]
  constructor
  · rintro ⟨_, distance, found, rfl⟩
    exact (returnsAt_iff opens distance).2 found
  · intro returns
    obtain ⟨distance, rfl⟩ :=
      Nat.exists_eq_add_of_le (Nat.succ_le_of_lt returns.behind)
    exact ⟨opens, distance, (returnsAt_iff opens distance).1 returns, rfl⟩

/-- The pass finds nothing where the depth never comes back to zero. -/
theorem closingPositions_eq_none_iff
    {text : List Char}
    {opening : Nat}
    (opens : text[opening]? = some '(') :
    (closingPositions text)[opening]? = some none ↔
      ∀ closing, ¬ReturnsAt text opening closing := by
  simp only [← paired_iff_returnsAt opens, Paired]
  rw [closingPositions_getElem? opens]
  simp only [Option.some.injEq]
  exact Option.eq_none_iff_forall_ne_some

/-- The brackets behind the front of a text are paired as in the text. -/
theorem paired_drop_iff
    {text : List Char}
    (front : Nat)
    {opening closing : Nat} :
    Paired (text.drop front) opening closing ↔
      Paired text (front + opening) (front + closing) := by
  rw [paired_iff, paired_iff, List.getElem?_drop, List.drop_drop,
    Nat.add_assoc front]
  simp only [Nat.add_assoc, Nat.add_left_cancel_iff]

namespace Paired

variable {text : List Char} {opening closing : Nat}

theorem isOpening
    (paired : Paired text opening closing) :
    text[opening]? = some '(' :=
  (paired_iff.1 paired).1

theorem lt
    (paired : Paired text opening closing) :
    opening < closing := by
  rcases paired_iff.1 paired with ⟨_, distance, _, rfl⟩
  omega

theorem isClosing
    (paired : Paired text opening closing) :
    text[closing]? = some ')' := by
  rcases paired_iff.1 paired with ⟨_, distance, found, rfl⟩
  rw [← List.getElem?_drop]
  exact getElem?_of_closingDistance found

theorem unique
    {other : Nat}
    (paired : Paired text opening closing)
    (also : Paired text opening other) :
    closing = other :=
  Option.some.inj (Option.some.inj (paired.symm.trans also))

theorem cons
    (paired : Paired text opening closing)
    (first : Char) :
    Paired (first :: text) (opening + 1) (closing + 1) := by
  rw [Nat.add_comm opening, Nat.add_comm closing, ← paired_drop_iff 1]
  exact paired

end Paired

/-! ## Brackets between those of a pair -/

/-- A count that goes on behind the first character goes on with some depth. -/
theorem exists_of_closingDistance_cons
    {depth distance : Nat}
    {character : Char}
    {text : List Char}
    (found :
      closingDistance depth (character :: text) = some (distance + 1)) :
    ∃ inner, closingDistance inner text = some distance := by
  rw [closingDistance_cons] at found
  split at found
  · cases found
  · rcases Option.map_eq_some_iff.1 found with ⟨before, reached, same⟩
    cases same
    exact ⟨_, reached⟩

/-- The count that finds a bracket comes by every place in front of it with some depth. -/
theorem exists_closingDistance_drop
    {depth distance place : Nat}
    {text : List Char}
    (found : closingDistance depth text = some (place + distance)) :
    ∃ inner, closingDistance inner (text.drop place) = some distance := by
  induction place generalizing depth text with
  | zero =>
      rw [Nat.zero_add] at found
      exact ⟨depth, found⟩
  | succ place hypothesis =>
      cases text with
      | nil => cases found
      | cons character text =>
          rw [Nat.add_right_comm] at found
          rcases exists_of_closingDistance_cons found with ⟨inner, further⟩
          rw [List.drop_succ_cons]
          exact hypothesis further

/-- What closes a bracket open behind a character closes one open before it, or the character. -/
theorem closes_of_openedBehind
    {depth outer place : Nat}
    {character : Char}
    {text : List Char}
    (below : outer < openedBehind depth character)
    (counted : closingDistance outer text = some place) :
    (∃ outer < depth,
        closingDistance outer (character :: text) = some (place + 1)) ∨
      Paired (character :: text) 0 (place + 1) := by
  by_cases opens : character = '('
  · subst opens
    cases outer with
    | zero =>
        refine .inr (paired_iff.2 ⟨rfl, place, counted, ?_⟩)
        omega
    | succ outer =>
        refine .inl ⟨outer, Nat.lt_of_succ_lt_succ below, ?_⟩
        rw [closingDistance, counted]
        rfl
  · by_cases closes : character = ')'
    · subst closes
      refine .inl ⟨outer + 1, Nat.add_lt_of_lt_sub below, ?_⟩
      rw [closingDistance, counted]
      rfl
    · rw [openedBehind, if_neg opens, if_neg closes] at below
      refine .inl ⟨outer, below, ?_⟩
      rw [closingDistance_cons_of_ne opens closes, counted]
      rfl

/--
A closing bracket in front of the one that a count finds closes one of those
open in front of the text, or one that opens in the text.
-/
theorem exists_opening_of_closingDistance
    {depth distance place : Nat}
    {text : List Char}
    (found : closingDistance depth text = some distance)
    (inFront : place < distance)
    (closes : text[place]? = some ')') :
    (∃ outer < depth, closingDistance outer text = some place) ∨
      ∃ start, Paired text start place := by
  induction text generalizing depth distance place with
  | nil => cases found
  | cons character text hypothesis =>
      rw [closingDistance_cons] at found
      split at found
      · cases found
        exact absurd inFront (Nat.not_lt_zero _)
      · rename_i goesOn
        rcases Option.map_eq_some_iff.1 found with ⟨before, reached, rfl⟩
        cases place with
        | zero =>
            -- The first character closes the innermost bracket, and one is open.
            cases closes
            refine .inl ⟨0, ?_, rfl⟩
            exact Nat.pos_of_ne_zero fun none => goesOn ⟨rfl, none⟩
        | succ place =>
            rw [List.getElem?_cons_succ] at closes
            rcases
                hypothesis reached (Nat.lt_of_succ_lt_succ inFront) closes with
              ⟨outer, below, counted⟩ | ⟨start, inside⟩
            · rcases closes_of_openedBehind below counted with before | itself
              · exact .inl before
              · exact .inr ⟨0, itself⟩
            · exact .inr ⟨start + 1, inside.cons character⟩

namespace Paired

variable {text : List Char} {opening closing : Nat}

/-- An opening bracket between those of a pair has its closing bracket there. -/
theorem exists_of_opening
    (paired : Paired text opening closing)
    {inner : Nat}
    (behind : opening < inner)
    (inFront : inner < closing)
    (opens : text[inner]? = some '(') :
    ∃ other, Paired text inner other ∧ other < closing := by
  rcases paired_iff.1 paired with ⟨_, distance, found, rfl⟩
  obtain ⟨place, rfl⟩ := Nat.exists_eq_add_of_le (Nat.succ_le_of_lt behind)
  rw [Nat.succ_eq_add_one] at opens inFront ⊢
  obtain ⟨rest, rfl⟩ :=
    Nat.exists_eq_add_of_le
      (Nat.le_of_lt (Nat.lt_of_add_lt_add_left inFront))
  rcases exists_closingDistance_drop found with ⟨depth, further⟩
  rcases List.getElem?_eq_some_iff.1 opens with ⟨inBounds, same⟩
  rw [List.drop_drop, List.drop_eq_getElem_cons inBounds, same] at further
  rcases exists_of_closingDistance_opening further with ⟨length, own, short⟩
  exact ⟨_, paired_iff.2 ⟨opens, length, own, rfl⟩, by omega⟩

/-- A closing bracket between those of a pair has its opening bracket there. -/
theorem exists_of_closing
    (paired : Paired text opening closing)
    {inner : Nat}
    (behind : opening < inner)
    (inFront : inner < closing)
    (closes : text[inner]? = some ')') :
    ∃ other, opening < other ∧ Paired text other inner := by
  rcases paired_iff.1 paired with ⟨_, distance, found, rfl⟩
  obtain ⟨place, rfl⟩ := Nat.exists_eq_add_of_le (Nat.succ_le_of_lt behind)
  rw [Nat.succ_eq_add_one] at closes inFront ⊢
  rw [← List.getElem?_drop] at closes
  rcases
      exists_opening_of_closingDistance found
        (Nat.lt_of_add_lt_add_left inFront) closes with
    ⟨_, below, _⟩ | ⟨start, inside⟩
  · exact absurd below (Nat.not_lt_zero _)
  · refine ⟨opening + 1 + start, by omega, (paired_drop_iff _).1 inside⟩

/-- Of two pairs the one that opens later is closed earlier, if it opens between the others. -/
theorem nested
    (paired : Paired text opening closing)
    {start stop : Nat}
    (other : Paired text start stop)
    (behind : opening < start) :
    closing < start ∨ stop < closing := by
  rcases Nat.lt_trichotomy start closing with between | same | outside
  · rcases paired.exists_of_opening behind between other.isOpening with
      ⟨found, also, inFront⟩
    rw [other.unique also]
    exact .inr inFront
  · have closes := paired.isClosing
    rw [← same, other.isOpening] at closes
    cases closes
  · exact .inl outside

end Paired

/-! ## Pairs in the levels of a parse -/

/-- The span has the closing bracket of every pair that opens in it. -/
def Span.EnclosesPairs (text : List Char) (span : Span) : Prop :=
  ∀ opening closing,
    span.start ≤ opening → opening < span.stop →
      Paired text opening closing → closing < span.stop

/-- All that is left to a reader has the closing brackets of the pairs that open in it. -/
def Reader.EnclosesPairs (text : List Char) (reader : Reader) : Prop :=
  ∀ span ∈ reader.remaining, span.EnclosesPairs text

section

variable {text : List Char} {span : Span}

/-- Without its front a span has the closing brackets of the pairs that are left. -/
theorem Span.EnclosesPairs.behind
    (encloses : span.EnclosesPairs text)
    {start : Nat}
    (ahead : span.start ≤ start) :
    Span.EnclosesPairs text ⟨start, span.stop⟩ :=
  fun opening closing inside => encloses opening closing (Nat.le_trans ahead inside)

/-- Every closing bracket stands in the text. -/
theorem enclosesPairs_all
    {stop : Nat}
    (whole : text.length ≤ stop) :
    Span.EnclosesPairs text ⟨0, stop⟩ := by
  intro opening closing _ _ paired
  exact Nat.lt_of_lt_of_le (List.getElem?_eq_some_iff.1 paired.isClosing).1 whole

/-- What stands between the brackets of a pair has the closing brackets of the pairs in it. -/
theorem Paired.enclosesPairs
    {opening closing : Nat}
    (paired : Paired text opening closing) :
    Span.EnclosesPairs text ⟨opening + 1, closing⟩ := by
  intro start stop behind inFront other
  rcases paired.exists_of_opening behind inFront other.isOpening with
    ⟨found, also, inside⟩
  rw [other.unique also]
  exact inside

end

namespace FormulaText

variable {text : FormulaText} {reader reached : Reader}

/-- The bracket noted for a position is the other one of a pair. -/
theorem paired_of_closings
    {opening closing : Nat}
    (found : (text.closings[opening]?).join = some closing) :
    Paired text.formula.toList opening closing := by
  rw [text.closings_eq, Option.join_eq_some_iff] at found
  exact found

/-- A reader that is further on in its level has the closing brackets of the pairs that are left. -/
theorem enclosesPairs_of_ahead
    (encloses : reader.EnclosesPairs text.formula.toList)
    {cursor : Nat}
    (ahead : reader.level.cursor ≤ cursor)
    (nest : Nest Slot) :
    Reader.EnclosesPairs text.formula.toList
      ⟨⟨reader.level.span, cursor, nest⟩, reader.deferred⟩ := by
  intro span member
  rcases List.mem_cons.1 member with rfl | putOff
  · exact (encloses _ List.mem_cons_self).behind ahead
  · exact encloses span (List.mem_cons_of_mem _ putOff)

theorem enclosesPairs_of_readOperand
    (encloses : reader.EnclosesPairs text.formula.toList)
    {operand : Operand Slot}
    {stop : Nat}
    (read : text.readOperand reader operand stop = .ok reached)
    (ahead : reader.level.cursor < stop) :
    reached.EnclosesPairs text.formula.toList := by
  rcases text.readOperand_eq_ok read with ⟨draft, _, rfl⟩
  exact enclosesPairs_of_ahead encloses (Nat.le_of_lt ahead) _

/-- A group is put off with what stands between its brackets. -/
theorem enclosesPairs_of_readGroup
    (encloses : reader.EnclosesPairs text.formula.toList)
    (read : text.readGroup reader = .ok reached) :
    reached.EnclosesPairs text.formula.toList := by
  rcases text.readGroup_eq_ok read with
    ⟨closing, draft, found, nonempty, _, _, rfl⟩
  have passed : reader.level.cursor ≤ closing + 1 := by omega
  have rest :=
    enclosesPairs_of_ahead encloses passed ⟨draft, reader.level.nest.outers⟩
  intro span member
  rcases List.mem_cons.1 member with rfl | putOff
  · exact rest _ List.mem_cons_self
  · rcases List.mem_cons.1 putOff with rfl | earlier
    · exact (paired_of_closings found).enclosesPairs
    · exact encloses span (List.mem_cons_of_mem _ earlier)

theorem enclosesPairs_of_readOperator
    (encloses : reader.EnclosesPairs text.formula.toList)
    {operator : Operator}
    {moved : Bool}
    (read : text.readOperator reader operator = .ok (reached, moved)) :
    reached.EnclosesPairs text.formula.toList := by
  simp only [readOperator] at read
  split at read
  · cases read
    exact enclosesPairs_of_ahead encloses (Nat.le_succ _) _
  · cases read

/-- Behind a token all that is left has the closing brackets of the pairs that open in it. -/
theorem enclosesPairs_of_readToken
    (encloses : reader.EnclosesPairs text.formula.toList)
    {character : Char}
    {moved : Bool}
    (read : text.readToken reader character = .ok (reached, moved)) :
    reached.EnclosesPairs text.formula.toList := by
  rcases text.taken_of_readToken read with
    ⟨operand, stop, ahead, added⟩ | group | ⟨operator, attached⟩
  · exact enclosesPairs_of_readOperand encloses added ahead
  · exact enclosesPairs_of_readGroup encloses group
  · exact enclosesPairs_of_readOperator encloses attached

/-- Behind the end of a chain nothing is left that was not left before. -/
theorem enclosesPairs_of_finishChain
    (encloses : reader.EnclosesPairs text.formula.toList)
    {chain : Sketch}
    {finished : List FinishedLevel}
    {next : Progress}
    (continued : finishChain reader chain finished = .continuing next) :
    next.reader.EnclosesPairs text.formula.toList := by
  simp only [finishChain] at continued
  split at continued
  · cases continued
    exact enclosesPairs_of_ahead encloses (Nat.le_refl _) _
  · split at continued
    · rename_i span deferred waiting
      cases continued
      intro other member
      apply encloses other
      rw [Reader.remaining, waiting]
      exact List.mem_cons_of_mem _ member
    · cases continued

/-- A step keeps the closing brackets of pairs with what is left to read. -/
theorem enclosesPairs_of_step
    {progress next : Progress}
    (encloses : progress.reader.EnclosesPairs text.formula.toList)
    (stepped : text.step progress = .ok (.continuing next)) :
    next.reader.EnclosesPairs text.formula.toList := by
  rcases step_eq_continuing stepped with
    ⟨character, reached, moved, _, read, rfl⟩ |
      ⟨chain, _, _, continued⟩
  · exact enclosesPairs_of_readToken encloses read
  · exact enclosesPairs_of_finishChain encloses continued

/-- In every state of a parse all that is left has the closing brackets of the pairs that open in it. -/
theorem Reached.enclosesPairs
    {progress : Progress}
    (reached : text.Reached progress) :
    progress.reader.EnclosesPairs text.formula.toList := by
  induction reached with
  | start =>
      intro span member
      rw [List.mem_singleton.1 member]
      exact enclosesPairs_all (Nat.le_of_eq text.size_characters.symm)
  | step _ stepped hypothesis => exact enclosesPairs_of_step hypothesis stepped

/-- A reader that comes to an opening bracket finds its closing bracket in front of the end of the level. -/
theorem Reached.closing_lt
    {progress : Progress}
    (reached : text.Reached progress)
    {character : Char}
    (next : text.nextCharacter? progress.reader.level = some character)
    {closing : Nat}
    (found :
      (text.closings[progress.reader.level.cursor]?).join = some closing) :
    closing < progress.reader.level.span.stop :=
  reached.enclosesPairs _ List.mem_cons_self _ _ (Nat.le_refl _)
    (text.cursor_lt_of_nextCharacter? next) (paired_of_closings found)

end FormulaText

/--
The pass over a text pairs every opening bracket with the first place behind it
at which a count of depth that begins there comes back to zero, and with none
if the count never does; no other character is paired.

Pairs nest: they do not cross, every opening bracket between those of a pair
has its closing bracket there, and every closing bracket its opening one.  So
wherever a parse comes to an opening bracket of a pair, in any state that it
goes through and in either mode, the closing one stands in front of the end of
the level.
-/
theorem brackets_paired_by_depth
    (text : List Char) :
    ((closingPositions text).size = text.length ∧
        (∀ opening,
          text[opening]? = some '(' →
            (∀ closing,
                (closingPositions text)[opening]? = some (some closing) ↔
                  ReturnsAt text opening closing) ∧
              ((closingPositions text)[opening]? = some none ↔
                ∀ closing, ¬ReturnsAt text opening closing)) ∧
          ∀ place < text.length,
            text[place]? ≠ some '(' →
              (closingPositions text)[place]? = some none) ∧
      (∀ opening closing,
        Paired text opening closing →
          (opening < closing ∧
              text[opening]? = some '(' ∧ text[closing]? = some ')') ∧
            (∀ inner,
              opening < inner →
                inner < closing →
                  (text[inner]? = some '(' →
                      ∃ other, Paired text inner other ∧ other < closing) ∧
                    (text[inner]? = some ')' →
                      ∃ other, opening < other ∧ Paired text other inner)) ∧
              ∀ start stop,
                Paired text start stop →
                  opening < start → closing < start ∨ stop < closing) ∧
        ∀ precedence parameters formula progress,
          let source := FormulaText.ofString precedence parameters formula
          formula.toList = text →
            source.Reached progress →
              (source.GoesThrough progress ∧
                (formula ≠ "" →
                  Formula.parse precedence parameters formula =
                    (source.readLevels progress).map
                      (assemble source.characters.size))) ∧
                (source.nextCharacter? progress.reader.level = some '(' →
                  ∀ closing,
                    (source.closings[progress.reader.level.cursor]?).join =
                        some closing →
                      closing < progress.reader.level.span.stop) := by
  refine ⟨⟨?_, ?_, ?_⟩, ?_, ?_⟩
  · exact size_closingPositions text
  · intro opening opens
    exact
      ⟨paired_iff_returnsAt opens, closingPositions_eq_none_iff opens⟩
  · intro place inBounds plain
    exact closingPositions_getElem?_of_ne inBounds plain
  · intro opening closing paired
    refine ⟨⟨paired.lt, paired.isOpening, paired.isClosing⟩, ?_, ?_⟩
    · intro inner behind inFront
      exact
        ⟨paired.exists_of_opening behind inFront,
          paired.exists_of_closing behind inFront⟩
    · intro start stop other behind
      exact paired.nested other behind
  · intro precedence parameters formula progress source _ reached
    refine ⟨⟨reached.goesThrough, reached.parse_eq⟩, ?_⟩
    intro next closing found
    exact reached.closing_lt next found

/-- A stray bracket does not disturb a pair, and of two groups the inner one is closed first. -/
theorem brackets_paired_by_depth_of_stray_bracket :
    let stray := [')', '(', '(', ')']
    let source := FormulaText.ofString .climbing [] "((1))"
    ((∀ closing, ¬ReturnsAt stray 1 closing) ∧ ReturnsAt stray 2 3) ∧
      (∃ other, 0 < other ∧ Paired "((1))".toList other 3) ∧
        ∃ progress,
          source.Reached progress ∧
            progress.reader.level.span = ⟨1, 4⟩ ∧
              source.nextCharacter? progress.reader.level = some '(' ∧
                (source.closings[progress.reader.level.cursor]?).join =
                    some 3 ∧
                  3 < progress.reader.level.span.stop := by
  intro stray source
  rcases brackets_paired_by_depth stray with ⟨⟨_, scan, _⟩, _, _⟩
  rcases brackets_paired_by_depth "((1))".toList with ⟨_, nest, within⟩
  refine ⟨⟨?_, ?_⟩, ?_, ?_⟩
  · exact (scan 1 rfl).2.1 rfl
  · exact ((scan 2 rfl).1 3).1 rfl
  · rcases nest 0 4 rfl with ⟨_, between, _⟩
    exact (between 3 (by decide) (by decide)).2 rfl
  · let group : Operand Slot := .atom (.unread ⟨1, 4⟩)
    have outer :
        source.Reached
          ⟨⟨⟨⟨0, 5⟩, 5, ⟨.complete (.single group), []⟩⟩, [⟨1, 4⟩]⟩, []⟩ :=
      .step .start rfl
    have inner :
        source.Reached
          ⟨⟨Level.begin ⟨1, 4⟩, []⟩, [⟨⟨0, 5⟩, .single group⟩]⟩ :=
      .step outer rfl
    exact ⟨_, inner, rfl, rfl, rfl, (within _ _ _ _ rfl inner).2 rfl 3 rfl⟩

end Formulary
