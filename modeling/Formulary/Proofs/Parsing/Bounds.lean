import Formulary.Proofs.Parsing.Checked
import Formulary.Proofs.Parsing.Conservation
import Formulary.Proofs.Parsing.Rejection

/-!
# Parsing within bounds

The checked parser stops at no breach: it has the result of the parser, for
every text, all parameters and both precedence modes.

Every access is one to the text of the level at hand.  `Reader.Within` says
what a step keeps of it: the level is not empty and lies inside of the text,
the cursor lies inside of the level or at its end, and the operator that waits
for an operand stands in front of the cursor.
-/

namespace Formulary

theorem Checked.bind_ok
    {α β : Type}
    (value : α)
    (next : α → Checked β) :
    ((.ok value : Checked α) >>= next) = next value :=
  rfl

/-! ## The pass over the brackets -/

theorem size_noteClosings
    (text : List Char)
    (position : Nat)
    (opened : List Nat)
    (closings : Array (Option Nat)) :
    (noteClosings text position opened closings).size = closings.size := by
  fun_induction noteClosings text position opened closings with
  | case1 => rfl
  | case2 _ _ _ _ hypothesis => exact hypothesis
  | case3 _ _ _ _ _ hypothesis =>
      rw [hypothesis, Array.size_setIfInBounds]
  | case4 _ _ _ _ _ _ _ hypothesis => exact hypothesis

theorem size_closingPositions
    (text : List Char) :
    (closingPositions text).size = text.length := by
  rw [closingPositions, size_noteClosings, Array.size_replicate]

/-- The pass notes brackets that have an entry. -/
theorem checkedNoteClosings_eq
    {text : List Char}
    {position : Nat}
    {opened : List Nat}
    {closings : Array (Option Nat)}
    (room : position + text.length ≤ closings.size)
    (noted : ∀ opening ∈ opened, opening < closings.size) :
    checkedNoteClosings text position opened closings =
      .ok (noteClosings text position opened closings) := by
  fun_induction noteClosings text position opened closings with
  | case1 => rfl
  | case2 text position opened closings hypothesis =>
      rw [List.length_cons] at room
      rw [checkedNoteClosings]
      apply hypothesis
      · omega
      · intro opening member
        rcases List.mem_cons.1 member with rfl | inside
        · omega
        · exact noted opening inside
  | case3 text position opening opened closings hypothesis =>
      rw [List.length_cons] at room
      rw [checkedNoteClosings, if_pos (noted opening List.mem_cons_self)]
      apply hypothesis
      · rw [Array.size_setIfInBounds]
        omega
      · intro other member
        rw [Array.size_setIfInBounds]
        exact noted other (List.mem_cons_of_mem _ member)
  | case4 character text position opened closings notOpening notClosing hypothesis =>
      rw [List.length_cons] at room
      rw [checkedNoteClosings]
      · apply hypothesis _ noted
        omega
      · exact notOpening
      · exact notClosing

/-! ## Accesses to the text -/

/-- A position from the beginning of the level on is counted from there. -/
theorem Level.checkedOffset_eq
    {level : Level}
    {position : Nat}
    (behind : level.span.start ≤ position) :
    level.checkedOffset position = .ok (level.offset position) :=
  if_pos behind

namespace FormulaText

variable {text : FormulaText}

theorem checkedCharacter_eq
    {position : Nat}
    {character : Char}
    (found : text.characters[position]? = some character) :
    text.checkedCharacter position = .ok character := by
  rw [checkedCharacter, found]

theorem checkedSlice_eq
    {start stop : Nat}
    (ordered : start ≤ stop)
    (inside : stop ≤ text.characters.size) :
    text.checkedSlice start stop = .ok (text.slice start stop) := by
  rw [checkedSlice, if_neg (Nat.not_lt_of_le ordered),
    if_neg (Nat.not_lt_of_le inside)]

/-- There is an entry for every position of the text. -/
theorem checkedClosing_eq
    {position : Nat}
    (inside : position < text.characters.size) :
    text.checkedClosing position = .ok (text.closings[position]?).join := by
  have size : text.closings.size = text.characters.size := by
    rw [text.closings_eq, text.characters_eq, size_closingPositions,
      List.size_toArray]
  rw [← size] at inside
  rw [checkedClosing, Array.getElem?_eq_getElem inside, Option.join_some]

/-- A row of characters of one kind is read inside of its level. -/
theorem checkedRunEnd_eq
    (accept : Char → Bool)
    {stop : Nat}
    (inside : stop ≤ text.characters.size)
    (position : Nat) :
    text.checkedRunEnd accept stop position =
      .ok (text.runEnd accept stop position) := by
  fun_induction runEnd text accept stop position with
  | case1 position missing =>
      have outside := Array.getElem?_eq_none_iff.1 missing
      rw [checkedRunEnd, if_neg (by omega)]
  | case2 position character found row hypothesis =>
      rw [checkedRunEnd, if_pos row.1, checkedCharacter_eq found]
      simp only [if_pos row.2]
      exact hypothesis
  | case3 position character found ended =>
      rw [checkedRunEnd, checkedCharacter_eq found]
      split
      · rename_i before
        simp only
        rw [if_neg fun accepted => ended ⟨before, accepted⟩]
      · rfl

theorem runEnd_le
    (accept : Char → Bool)
    {stop position : Nat}
    (inside : position ≤ stop) :
    text.runEnd accept stop position ≤ stop := by
  fun_induction runEnd text accept stop position with
  | case1 => exact inside
  | case2 position character found row hypothesis => exact hypothesis row.1
  | case3 => exact inside

end FormulaText

/-! ## Readers within their level -/

/-- The reader stands inside of a level that is a part of the text and not empty. -/
structure Reader.Within (text : FormulaText) (reader : Reader) : Prop where
  start_lt : reader.level.span.start < reader.level.span.stop
  start_le : reader.level.span.start ≤ reader.level.cursor
  cursor_le : reader.level.cursor ≤ reader.level.span.stop
  stop_le : reader.level.span.stop ≤ text.characters.size
  symbol :
    ∀ chain operator,
      reader.level.nest.draft = .expecting chain operator →
        text.characters[reader.level.cursor - 1]? = some operator.symbol

namespace FormulaText

variable {text : FormulaText} {reader reached : Reader}
variable {previous : Option LevelToken}

theorem length_left
    (within : reader.Within text) :
    (text.left reader.level).length =
      reader.level.span.stop - reader.level.cursor :=
  length_slice _ within.stop_le

/-- The text of a level is there for an error. -/
theorem checkedExpression_eq
    (within : reader.Within text) :
    text.checkedExpression reader.level.span =
      .ok (text.expression reader.level.span) := by
  rw [checkedExpression,
    checkedSlice_eq (Nat.le_of_lt within.start_lt) within.stop_le]
  rfl

theorem checkedClosingFault_eq
    {α : Type}
    (within : reader.Within text) :
    (text.checkedClosingFault reader.level : Checked (Except ParseError α)) =
      .ok (.error (text.closingFault reader.level)) := by
  rw [checkedClosingFault, checkedExpression_eq within]
  rfl

/-- The text of a level and a position in it are there for an error. -/
theorem checkedFault_eq
    {α : Type}
    (within : reader.Within text)
    {position : Nat}
    (behind : reader.level.span.start ≤ position)
    (fault : String → Nat → ParseError) :
    (text.checkedFault reader.level position fault :
        Checked (Except ParseError α)) =
      .ok
        (.error
          (fault (text.expression reader.level.span)
            (reader.level.offset position))) := by
  rw [checkedFault, checkedExpression_eq within,
    Level.checkedOffset_eq behind]
  rfl

/-! ## Tokens -/

theorem checkedReadOperand_eq
    (within : reader.Within text)
    (operand : Operand Slot)
    (stop : Nat) :
    text.checkedReadOperand reader operand stop =
      .ok (text.readOperand reader operand stop) := by
  rw [checkedReadOperand, readOperand]
  cases reader.level.nest.draft.addOperand? operand with
  | some draft => rfl
  | none => exact checkedFault_eq within within.start_le _

theorem checkedReadNumeral_eq
    (within : reader.Within text)
    (inside : reader.level.cursor < reader.level.span.stop) :
    text.checkedReadNumeral reader = .ok (text.readNumeral reader) := by
  rw [checkedReadNumeral, checkedRunEnd_eq _ within.stop_le, Checked.bind_ok,
    checkedSlice_eq
      (Nat.le_of_succ_le (text.le_runEnd _ _ (reader.level.cursor + 1)))
      (Nat.le_trans (runEnd_le _ inside) within.stop_le),
    Checked.bind_ok, checkedReadOperand_eq within]
  rfl

theorem checkedReadName_eq
    (within : reader.Within text)
    (inside : reader.level.cursor < reader.level.span.stop) :
    text.checkedReadName reader = .ok (text.readName reader) := by
  have letters :=
    text.le_runEnd Char.isAlpha reader.level.span.stop
      (reader.level.cursor + 1)
  have digits :=
    text.le_runEnd Char.isDigit reader.level.span.stop
      (text.runEnd Char.isAlpha reader.level.span.stop
        (reader.level.cursor + 1))
  have ends :
      text.runEnd Char.isDigit reader.level.span.stop
          (text.runEnd Char.isAlpha reader.level.span.stop
            (reader.level.cursor + 1)) ≤
        reader.level.span.stop :=
    runEnd_le _ (runEnd_le _ inside)
  rw [checkedReadName, checkedRunEnd_eq _ within.stop_le, Checked.bind_ok,
    checkedRunEnd_eq _ within.stop_le, Checked.bind_ok,
    checkedSlice_eq
      (Nat.le_of_succ_le (Nat.le_trans letters digits))
      (Nat.le_trans ends within.stop_le),
    Checked.bind_ok, readName]
  simp only
  generalize
    text.runEnd Char.isDigit reader.level.span.stop
      (text.runEnd Char.isAlpha reader.level.span.stop
        (reader.level.cursor + 1)) = stop
  cases
      text.parameters.idxOf?
        (String.ofList (text.slice reader.level.cursor stop)) with
  | none => rfl
  | some index => exact checkedReadOperand_eq within _ _

theorem checkedReadGroup_eq
    (within : reader.Within text)
    (inside : reader.level.cursor < reader.level.span.stop) :
    text.checkedReadGroup reader = .ok (text.readGroup reader) := by
  rw [checkedReadGroup,
    checkedClosing_eq (Nat.lt_of_lt_of_le inside within.stop_le),
    Checked.bind_ok, readGroup]
  simp only
  cases (text.closings[reader.level.cursor]?).join with
  | none => exact checkedClosingFault_eq within
  | some closing =>
      by_cases beyond : reader.level.span.stop ≤ closing
      · simp only [if_pos beyond]
        exact checkedClosingFault_eq within
      · by_cases empty : closing ≤ reader.level.cursor + 1
        · simp only [if_neg beyond, if_pos empty]
          exact checkedFault_eq within within.start_le _
        · simp only [if_neg beyond, if_neg empty]
          rw [checkedReadOperand_eq within, Checked.bind_ok]
          generalize
            text.readOperand reader
              (.atom (.unread ⟨reader.level.cursor + 1, closing⟩))
              (closing + 1) = outcome
          cases outcome with
          | error fault => rfl
          | ok passed => rfl

theorem checkedReadOperator_eq
    (within : reader.Within text)
    (operator : Operator) :
    text.checkedReadOperator reader operator =
      .ok (text.readOperator reader operator) := by
  rw [checkedReadOperator, readOperator]
  cases reader.level.nest.draft with
  | complete chain => rfl
  | empty => exact checkedFault_eq within within.start_le _
  | expecting chain before => exact checkedFault_eq within within.start_le _

theorem checkedReadToken_eq
    (within : reader.Within text)
    (inside : reader.level.cursor < reader.level.span.stop)
    (character : Char) :
    text.checkedReadToken reader character =
      .ok (text.readToken reader character) := by
  rw [checkedReadToken, readToken]
  split
  · rw [checkedReadNumeral_eq within inside, Checked.bind_ok]
  · split
    · rw [checkedReadName_eq within inside, Checked.bind_ok]
    · split
      · rw [checkedReadGroup_eq within inside, Checked.bind_ok]
      · split
        · exact checkedFault_eq within within.start_le _
        · cases Operator.ofChar? character with
          | some operator => exact checkedReadOperator_eq within operator
          | none => exact checkedFault_eq within within.start_le _

/-- A reader behind one more token is within its level as well. -/
theorem within_of_advances
    (within : reader.Within text)
    {character : Char}
    {rest : List Char}
    (ahead : text.left reader.level = character :: rest)
    (advances : text.Advances (.first character rest) reader reached) :
    reached.Within text := by
  have spelled := (LevelToken.text_prefix_first character rest).length_le
  have start := within.start_le
  have cursor := within.cursor_le
  have length := length_left within
  rw [ahead] at length
  constructor
  · rw [advances.span_eq]
    exact within.start_lt
  · rw [advances.span_eq, advances.cursor_eq]
    omega
  · rw [advances.span_eq, advances.cursor_eq]
    omega
  · rw [advances.span_eq]
    exact within.stop_le
  · -- Only an operator leaves a draft that waits, so the token was that operator.
    intro chain operator waits
    have ends := advances.behind.ends
    have first := LevelToken.text_prefix_first character rest
    have behind := advances.cursor_eq
    rw [waits] at ends
    generalize LevelToken.first character rest = token at ends first behind
    cases ends with
    | expecting =>
        have next : text.nextCharacter? reader.level = some operator.symbol := by
          rw [nextCharacter?_eq, ahead, ← (List.cons_prefix_cons.1 first).1,
            List.head?_cons]
        rw [behind, LevelToken.text, List.length_singleton,
          Nat.add_sub_cancel]
        rw [nextCharacter?, if_pos (text.cursor_lt_of_nextCharacter? next)] at next
        exact next

/-! ## Steps -/

/-- Read the next token, or finish the chain of a level that has no more tokens. -/
def step (text : FormulaText) (progress : Progress) : Except ParseError TurnResult :=
  match text.nextCharacter? progress.reader.level with
  | some character =>
      (text.readToken progress.reader character).map fun result =>
        .continuing { progress with reader := result.1 }
  | none =>
      (text.completeChain progress.reader.level).map fun chain =>
        finishChain progress.reader chain progress.finished

/-- The loop takes a step and goes on. -/
theorem readLevels_eq_step
    (progress : Progress) :
    text.readLevels progress =
      match text.step progress with
      | .error fault => .error fault
      | .ok (.finished levels) => .ok levels
      | .ok (.continuing reached) => text.readLevels reached := by
  rw [step]
  cases found : text.nextCharacter? progress.reader.level with
  | some character =>
      simp only
      rw [text.readLevels_of_token found]
      cases text.readToken progress.reader character with
      | error fault => rfl
      | ok result => rfl
  | none =>
      simp only
      rw [text.readLevels_of_end found]
      cases text.completeChain progress.reader.level with
      | error fault => rfl
      | ok chain =>
          simp only [Except.map]
          cases finishChain progress.reader chain progress.finished with
          | continuing reached => rfl
          | finished levels => rfl

end FormulaText

/-- What the steps of a parse keep. -/
structure FormulaText.Progress.Within
    (text : FormulaText)
    (progress : FormulaText.Progress) :
    Prop where
  behind : ∃ previous, text.StandsBehind previous progress.reader
  reader : progress.reader.Within text
  finished :
    ∀ level ∈ progress.finished, level.span.start < text.characters.size

/-- A step has led to a progress with less work, or to levels with a place in the table. -/
inductive FormulaText.TurnResult.Within
    (text : FormulaText)
    (progress : FormulaText.Progress) :
    FormulaText.TurnResult → Prop where
  | continuing
      {reached : FormulaText.Progress}
      (within : reached.Within text)
      (lighter : reached.reader.weight < progress.reader.weight) :
      Within text progress (.continuing reached)
  | finished
      {levels : List FinishedLevel}
      (inside : ∀ level ∈ levels, level.span.start < text.characters.size) :
      Within text progress (.finished levels)

namespace FormulaText

variable {text : FormulaText} {progress : Progress}

/-- A level in which nothing was read has not ended. -/
theorem draft_ne_empty
    (within : progress.Within text)
    (ended : text.left progress.reader.level = []) :
    progress.reader.level.nest.draft ≠ .empty := by
  intro drafted
  rcases within.behind with ⟨previous, stands⟩
  have ends := stands.ends
  rw [drafted] at ends
  cases ends with
  | empty => exact stands.begins rfl ended

/-- At the end of a level the operator that waits for an operand is its last character. -/
theorem checkedCompleteChain_eq
    (within : progress.Within text)
    (ended : text.left progress.reader.level = []) :
    text.checkedCompleteChain progress.reader.level =
      .ok (text.completeChain progress.reader.level) := by
  have inside := within.reader
  have length := length_left inside
  rw [ended, List.length_nil] at length
  rw [checkedCompleteChain, completeChain]
  cases drafted : progress.reader.level.nest.draft with
  | complete chain => rfl
  | empty => exact absurd drafted (draft_ne_empty within ended)
  | expecting chain operator =>
      have symbol := inside.symbol chain operator drafted
      have start := inside.start_lt
      have cursor := inside.cursor_le
      cases stop : progress.reader.level.span.stop with
      | zero => omega
      | succ last =>
          have position : progress.reader.level.cursor - 1 = last := by omega
          rw [position] at symbol
          simp only
          rw [checkedCharacter_eq symbol, Checked.bind_ok,
            checkedFault_eq inside (by omega)]
          rfl

/-- A step makes no access out of bounds. -/
theorem checkedStep_eq
    (within : progress.Within text) :
    text.checkedStep progress = .ok (text.step progress) := by
  have inside := within.reader
  rw [checkedStep, step]
  cases found : text.nextCharacter? progress.reader.level with
  | some character =>
      have before := text.cursor_lt_of_nextCharacter? found
      rw [nextCharacter?, if_pos before] at found
      rw [if_pos before, checkedCharacter_eq found, Checked.bind_ok,
        checkedReadToken_eq inside before, Checked.bind_ok]
  | none =>
      have ended : text.left progress.reader.level = [] := by
        rw [← List.head?_eq_none_iff, ← nextCharacter?_eq, found]
      have length := length_left inside
      rw [ended, List.length_nil] at length
      rw [if_neg (by omega), checkedCompleteChain_eq within ended,
        Checked.bind_ok]

/-- A group that was put off is read within bounds. -/
theorem within_begin
    {span : Span}
    (unread : text.Unread span)
    (deferred : List Span) :
    Reader.Within text ⟨Level.begin span, deferred⟩ := by
  have length := List.length_pos_iff.2 unread.2
  rw [length_slice _ unread.1, Nat.sub_pos_iff_lt] at length
  constructor
  · exact length
  · exact Nat.le_refl _
  · exact Nat.le_of_lt length
  · exact unread.1
  · intro chain operator waits
    cases waits

/-- Behind the end of a level the parse goes on within bounds. -/
theorem within_of_finishChain
    (within : progress.Within text)
    (ended : text.left progress.reader.level = [])
    {chain : Sketch}
    (completed : progress.reader.level.nest.draft = .complete chain) :
    (finishChain progress.reader chain progress.finished).Within text
      progress := by
  rcases within.behind with ⟨previous, stands⟩
  have inside := within.reader
  have outcome :=
    faultLeft?_of_finishChain stands ended completed progress.finished
  have closed :
      ∀ level ∈
        (⟨progress.reader.level.span, chain⟩ : FinishedLevel) ::
          progress.finished,
        level.span.start < text.characters.size := by
    intro level member
    rcases List.mem_cons.1 member with rfl | earlier
    · exact Nat.lt_of_lt_of_le inside.start_lt inside.stop_le
    · exact within.finished level earlier
  have lighter
      {reached : Progress}
      (continued :
        finishChain progress.reader chain progress.finished =
          .continuing reached) :
      reached.reader.weight < progress.reader.weight :=
    finishChain_weight continued
  cases nested : progress.reader.level.nest.outers with
  | cons outer outers =>
      simp only [finishChain, nested] at outcome lighter ⊢
      rcases outcome with ⟨behind, standing, _⟩
      refine .continuing ⟨⟨behind, standing⟩, ?_, within.finished⟩ (lighter rfl)
      constructor
      · exact inside.start_lt
      · exact inside.start_le
      · exact inside.cursor_le
      · exact inside.stop_le
      · intro complete operator waits
        cases waits
  | nil =>
      have unread := stands.deferred
      cases waiting : progress.reader.deferred with
      | cons span deferred =>
          rw [waiting] at unread
          simp only [finishChain, nested, waiting] at outcome lighter ⊢
          rcases outcome with ⟨behind, standing, _⟩
          have begins := within_begin (unread span List.mem_cons_self) deferred
          exact .continuing ⟨⟨behind, standing⟩, begins, closed⟩ (lighter rfl)
      | nil =>
          simp only [finishChain, nested, waiting]
          exact .finished closed

/-- A step that is no error stays within bounds and takes work away. -/
theorem within_of_step
    (within : progress.Within text)
    {result : TurnResult}
    (stepped : text.step progress = .ok result) :
    result.Within text progress := by
  rcases within.behind with ⟨previous, stands⟩
  rw [step] at stepped
  cases ahead : text.left progress.reader.level with
  | cons character rest =>
      have found : text.nextCharacter? progress.reader.level = some character := by
        rw [nextCharacter?_eq, ahead, List.head?_cons]
      have before := text.cursor_lt_of_nextCharacter? found
      have reads := reads_readToken stands ahead
      generalize text.faultAt? _ _ _ = fault? at reads
      generalize read : text.readToken progress.reader character = outcome at reads
      rw [found] at stepped
      simp only [read] at stepped
      cases reads with
      | fault fault => cases stepped
      | pass moved advances =>
          cases stepped
          have kept := within_of_advances within.reader ahead advances
          exact
            .continuing ⟨⟨_, advances.behind⟩, kept, within.finished⟩
              (text.readToken_weight read before)
  | nil =>
      have ended : text.nextCharacter? progress.reader.level = none := by
        rw [nextCharacter?_eq, ahead, List.head?_nil]
      rw [ended, completeChain] at stepped
      cases drafted : progress.reader.level.nest.draft with
      | complete chain =>
          rw [drafted] at stepped
          cases stepped
          exact within_of_finishChain within ahead drafted
      | empty => exact absurd drafted (draft_ne_empty within ahead)
      | expecting chain operator =>
          rw [drafted] at stepped
          cases stepped

/-- No step of the loop makes an access out of bounds, and its levels have a place in the table. -/
theorem checkedReadLevels_eq
    (within : progress.Within text) :
    text.checkedReadLevels progress = .ok (text.readLevels progress) ∧
      ∀ levels,
        text.readLevels progress = .ok levels →
          ∀ level ∈ levels, level.span.start < text.characters.size := by
  induction work : progress.reader.weight using Nat.strongRecOn
    generalizing progress with
  | ind work hypothesis =>
      subst work
      rw [checkedReadLevels, checkedStep_eq within, readLevels_eq_step]
      cases stepped : text.step progress with
      | error fault => exact ⟨rfl, nofun⟩
      | ok result =>
          cases within_of_step within stepped with
          | finished inside =>
              refine ⟨rfl, ?_⟩
              intro levels same
              cases same
              exact inside
          | continuing kept lighter =>
              simp only
              rw [if_pos lighter]
              exact hypothesis _ lighter kept rfl

/-- A text that is not empty is read within bounds. -/
theorem within_start
    (nonempty : text.formula ≠ "") :
    text.start.Within text where
  behind := by
    refine ⟨none, standsBehind_begin ?_⟩
    intro span member
    rw [List.mem_singleton.1 member]
    exact unread_all nonempty
  reader := within_begin (unread_all nonempty) []
  finished := nofun

end FormulaText

/-! ## Assembly -/

/-- The groups of a level that is filled are in the table. -/
theorem FinishedLevel.checkedFormula_eq
    {groups : Array (Option Formula)}
    {level : FinishedLevel}
    (filled : level.Filled groups) :
    level.checkedFormula groups =
      .ok (level.sketch.substitute (fillSlot groups)) := by
  apply if_pos
  rw [List.all_eq_true]
  intro slot member
  cases slot with
  | atom atom => rfl
  | unread span =>
      rcases filled span member with ⟨formula, found⟩
      rw [Slot.isFilled, found]
      rfl

theorem checkedAssembleOnto_eq
    {groups : Array (Option Formula)}
    {levels : List FinishedLevel}
    (nonempty : levels ≠ [])
    (ready : Ready groups levels)
    (inside : ∀ level ∈ levels, level.span.start < groups.size) :
    checkedAssembleOnto groups levels = .ok (assembleOnto groups levels) := by
  induction levels generalizing groups with
  | nil => exact absurd rfl nonempty
  | cons level levels hypothesis =>
      have formula := FinishedLevel.checkedFormula_eq ready.1
      cases levels with
      | nil => exact formula
      | cons next levels =>
          rw [checkedAssembleOnto, formula, Checked.bind_ok,
            if_pos (inside level List.mem_cons_self)]
          · apply hypothesis (List.cons_ne_nil _ _) ready.2
            intro other member
            rw [recordLevel, Array.size_setIfInBounds]
            exact inside other (List.mem_cons_of_mem _ member)
          · exact List.cons_ne_nil _ _

/-! ## The whole parse -/

/-- The parser makes no access out of bounds, reads something in each level, and never lacks a group. -/
theorem Formula.checkedParse_eq
    (precedence : Precedence)
    (parameters : List String)
    (formula : String) :
    Formula.checkedParse precedence parameters formula =
      .ok (Formula.parse precedence parameters formula) := by
  let text := FormulaText.ofString precedence parameters formula
  by_cases empty : formula.isEmpty = true
  · rw [checkedParse, parse, if_pos empty, if_pos empty]
  · have nonempty : text.formula ≠ "" := by
      rwa [Ne, ← String.isEmpty_iff]
    rcases FormulaText.checkedReadLevels_eq (FormulaText.within_start nonempty) with
      ⟨checked, inside⟩
    have noted :
        checkedNoteClosings formula.toList 0 []
            (Array.replicate formula.toList.length none) =
          .ok (closingPositions formula.toList) := by
      apply checkedNoteClosings_eq
      · apply Nat.le_of_eq
        rw [Array.size_replicate, Nat.zero_add]
      · intro opening member
        exact absurd member List.not_mem_nil
    rw [checkedParse, if_neg empty]
    simp only
    rw [noted, Checked.bind_ok,
      show text.checkedReadLevels text.start = _ from checked, Checked.bind_ok]
    have parsed :
        Formula.parse precedence parameters formula =
          (text.readLevels text.start).map (assemble text.characters.size) :=
      parse_eq_map precedence parameters nonempty
    cases read : text.readLevels text.start with
    | error fault =>
        rw [parsed, read]
        rfl
    | ok levels =>
        rw [read] at parsed
        rcases exists_ready_levels parsed with
          ⟨others, same, someLevel, ready, _⟩
        cases read.symm.trans same
        simp only
        rw [parsed, checkedAssembleOnto_eq someLevel ready, Checked.bind_ok]
        · rfl
        · rw [Array.size_replicate]
          exact inside levels read

end Formulary
