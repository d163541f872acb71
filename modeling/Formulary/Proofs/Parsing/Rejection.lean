import Formulary.Proofs.Parsing.Faults

/-!
# Rejected texts

A reader that stands in a level behind a token finds the fault that the check
finds there, and otherwise goes on behind the next token: `reads_readToken`.
The chains that a precedence mode opens and closes make no difference to it;
all that counts of them is whether an operand or an operator was read last.

So the parser reports the first fault of a text, in both precedence modes:
`parse_eq_error_iff`.
-/

namespace Formulary

/-- The last token of a draft. -/
inductive Draft.EndsIn {α : Type} : Draft α → Option LevelToken → Prop where
  | empty : EndsIn .empty none
  | complete
      (chain : Chain α)
      {token : LevelToken}
      (operand : token.isOperand = true) :
      EndsIn (.complete chain) (some token)
  | expecting
      (chain : Chain α)
      (operator : Operator) :
      EndsIn (.expecting chain operator) (some (.symbol operator))

/-! ## The kinds of first tokens -/

namespace LevelToken

variable {character : Char} (rest : List Char)

/-- A digit begins a numeral. -/
theorem first_of_isDigit
    (digit : character.isDigit = true) :
    ∃ shape,
      first character rest =
        .word
          (.numeral
            (character :: rest.takeWhile fun character =>
              character.isDigit || character == '.')
            shape) := by
  rw [first, splitWord?, dif_pos digit]
  exact ⟨_, rfl⟩

/-- A letter begins a name. -/
theorem first_of_isAlpha
    (noDigit : ¬character.isDigit = true)
    (letter : character.isAlpha = true) :
    ∃ shape,
      first character rest =
        .word
          (.name
            (character ::
              (rest.takeWhile Char.isAlpha ++
                (rest.dropWhile Char.isAlpha).takeWhile Char.isDigit))
            shape) := by
  rw [first, splitWord?, dif_neg noDigit, dif_pos letter]
  exact ⟨_, rfl⟩

theorem first_of_noWord
    (noDigit : ¬character.isDigit = true)
    (noLetter : ¬character.isAlpha = true) :
    first character rest = .ofCharacter character rest := by
  rw [first, splitWord?, dif_neg noDigit, dif_neg noLetter]

end LevelToken

/-! ## The fault of one token -/

/-- An operand that is all right by itself must not stand behind another one. -/
theorem Scope.tokenFault?_of_isOperand
    {scope : Scope}
    {token : LevelToken}
    {position : Nat}
    (operand : token.isOperand = true)
    (sound : scope.ownFault? position token = none)
    (previous : Option LevelToken) :
    scope.tokenFault? previous position token =
      if previous.any LevelToken.isOperand then
        some
          (.missingOperator scope.formula (String.ofList scope.expression)
            position)
      else
        none := by
  cases token with
  | word written =>
      rw [tokenFault?, sound, Option.none_or, placeFault?, operand,
        Bool.true_and]
      exact fun _ same => nomatch same
  | group body =>
      rw [tokenFault?, sound, Option.none_or, placeFault?, operand,
        Bool.true_and]
      exact fun _ same => nomatch same
  | _ => cases operand

/-- A level may end in an operand. -/
theorem Scope.endFault?_of_isOperand
    (scope : Scope)
    {token : LevelToken}
    (operand : token.isOperand = true) :
    scope.endFault? (some token) = none := by
  cases token with
  | symbol operator => cases operand
  | _ => rfl

namespace FormulaText

variable {text : FormulaText} {reader reached : Reader}
variable {previous : Option LevelToken} {token : LevelToken}

/-- The level of a span, as it is checked. -/
def scope (text : FormulaText) (span : Span) : Scope :=
  ⟨text.formula, text.parameters, text.slice span.start span.stop⟩

/-- The texts of the groups that were put off. -/
def bodies (text : FormulaText) (deferred : List Span) : List (List Char) :=
  deferred.map fun span => text.slice span.start span.stop

/-- The span of a level that has not been read: it ends inside of the text and is not empty. -/
def Unread (text : FormulaText) (span : Span) : Prop :=
  span.stop ≤ text.characters.size ∧ text.slice span.start span.stop ≠ []

/-- The reader stands behind a token of its level. -/
structure StandsBehind
    (text : FormulaText)
    (previous : Option LevelToken)
    (reader : Reader) :
    Prop where
  ends : reader.level.nest.draft.EndsIn previous
  begins : previous = none → text.left reader.level ≠ []
  start_le : reader.level.span.start ≤ reader.level.cursor
  stop_le : reader.level.span.stop ≤ text.characters.size
  deferred : ∀ span ∈ reader.deferred, text.Unread span

/-- Behind a token it does not matter what is left of the level. -/
theorem standsBehind_token
    {text : FormulaText}
    {token : LevelToken}
    {reader : Reader}
    (ends : reader.level.nest.draft.EndsIn (some token))
    (start_le : reader.level.span.start ≤ reader.level.cursor)
    (stop_le : reader.level.span.stop ≤ text.characters.size)
    (deferred : ∀ span ∈ reader.deferred, text.Unread span) :
    text.StandsBehind (some token) reader where
  ends := ends
  begins absent := absurd absent (Option.some_ne_none token)
  start_le := start_le
  stop_le := stop_le
  deferred := deferred

/-- The reader has come behind one more token. -/
structure Advances
    (text : FormulaText)
    (token : LevelToken)
    (reader reached : Reader) :
    Prop where
  behind : text.StandsBehind (some token) reached
  span_eq : reached.level.span = reader.level.span
  cursor_eq :
    reached.level.cursor = reader.level.cursor + token.text.length
  bodies_eq :
    text.bodies reached.deferred =
      token.body?.toList ++ text.bodies reader.deferred

/-- The fault of a token at the position of the reader, behind the token before it. -/
def faultAt?
    (text : FormulaText)
    (previous : Option LevelToken)
    (reader : Reader)
    (token : LevelToken) :
    Option ParseError :=
  (text.scope reader.level.span).tokenFault? previous
    (reader.level.offset reader.level.cursor) token

/-- What comes of reading a token: its fault, or a reader behind it. -/
inductive Reads
    (text : FormulaText)
    (token : LevelToken)
    (reader : Reader) :
    Option ParseError → Except ParseError (Reader × Bool) → Prop where
  | fault
      (fault : ParseError) :
      Reads text token reader (some fault) (.error fault)
  | pass
      {reached : Reader}
      (moved : Bool)
      (advances : text.Advances token reader reached) :
      Reads text token reader none (.ok (reached, moved))

/-! ## Operands -/

/-- An operand is refused behind an operand. -/
theorem readOperand_behind_operand
    (ends : reader.level.nest.draft.EndsIn previous)
    (follows : previous.any LevelToken.isOperand = true)
    (operand : Operand Slot)
    (stop : Nat) :
    text.readOperand reader operand stop =
      .error
        (.missingOperator text.formula (text.expression reader.level.span)
          (reader.level.offset reader.level.cursor)) := by
  rw [readOperand]
  generalize reader.level.nest.draft = draft at ends ⊢
  cases ends with
  | empty => cases follows
  | complete chain operand => rfl
  | expecting chain operator => cases follows

/-- An operand is added at the beginning of a level and behind an operator. -/
theorem readOperand_behind_operator
    (text : FormulaText)
    (ends : reader.level.nest.draft.EndsIn previous)
    (free : previous.any LevelToken.isOperand = false)
    (operand : Operand Slot)
    (stop : Nat) :
    ∃ chain,
      text.readOperand reader operand stop =
        .ok (reader.advance (.complete chain) stop) := by
  rw [readOperand]
  generalize reader.level.nest.draft = draft at ends ⊢
  cases ends with
  | empty => exact ⟨_, rfl⟩
  | complete chain operand =>
      rw [Option.any_some, operand] at free
      cases free
  | expecting chain operator => exact ⟨_, rfl⟩

/-- An operand that is all right by itself is read where it may stand, and its group is put off. -/
theorem reads_operand
    (stands : text.StandsBehind previous reader)
    (operand : token.isOperand = true)
    (sound :
      (text.scope reader.level.span).ownFault?
        (reader.level.offset reader.level.cursor) token = none)
    (put : List Span)
    (unread : ∀ span ∈ put, text.Unread span)
    (spelled : text.bodies put = token.body?.toList)
    (slot : Operand Slot) :
    text.Reads token reader
      (text.faultAt? previous reader token)
      ((text.readOperand reader slot
          (reader.level.cursor + token.text.length)).map fun passed =>
        ({ passed with deferred := put ++ passed.deferred }, false)) := by
  rw [faultAt?, Scope.tokenFault?_of_isOperand operand sound]
  split
  · rename_i follows
    rw [readOperand_behind_operand stands.ends follows]
    exact .fault _
  · rename_i free
    rcases
      text.readOperand_behind_operator stands.ends
        (Bool.eq_false_iff.2 free) slot
        (reader.level.cursor + token.text.length) with
      ⟨chain, added⟩
    rw [added]
    refine .pass false
      ⟨standsBehind_token (.complete chain operand) ?_ stands.stop_le ?_, rfl,
        rfl, ?_⟩
    · exact Nat.le_trans stands.start_le (Nat.le_add_right _ _)
    · intro span member
      rcases List.mem_append.1 member with new | old
      · exact unread span new
      · exact stands.deferred span old
    · rw [← spelled]
      exact List.map_append

/-- A word that is all right by itself is read where an operand may stand. -/
theorem reads_word
    (stands : text.StandsBehind previous reader)
    {written : Word}
    (sound :
      (text.scope reader.level.span).ownFault?
        (reader.level.offset reader.level.cursor) (.word written) = none)
    (slot : Operand Slot) :
    text.Reads (.word written) reader
      (text.faultAt? previous reader (.word written))
      ((text.readOperand reader slot
        (reader.level.cursor + written.text.length)).map (·, false)) :=
  reads_operand stands rfl sound [] nofun rfl slot

theorem reads_readNumeral
    (stands : text.StandsBehind previous reader)
    {character : Char}
    {rest : List Char}
    (ahead : text.left reader.level = character :: rest)
    (digit : character.isDigit = true) :
    text.Reads (.first character rest) reader
      (text.faultAt? previous reader (.first character rest))
      ((text.readNumeral reader).map (·, false)) := by
  rcases LevelToken.first_of_isDigit rest digit with ⟨shape, same⟩
  rw [same, readNumeral_eq ahead]
  exact reads_word stands rfl _

theorem reads_readName
    (stands : text.StandsBehind previous reader)
    {character : Char}
    {rest : List Char}
    (ahead : text.left reader.level = character :: rest)
    (noDigit : ¬character.isDigit = true)
    (letter : character.isAlpha = true) :
    text.Reads (.first character rest) reader
      (text.faultAt? previous reader (.first character rest))
      ((text.readName reader).map (·, false)) := by
  rcases LevelToken.first_of_isAlpha rest noDigit letter with
    ⟨shape, same⟩
  rw [same, readName_eq ahead]
  generalize
    character ::
      (rest.takeWhile Char.isAlpha ++
        (rest.dropWhile Char.isAlpha).takeWhile Char.isDigit) = name at shape ⊢
  by_cases known : String.ofList name ∈ text.parameters
  · simp only [idxOf?_of_mem known]
    apply reads_word stands
    rw [Scope.ownFault?]
    exact if_pos known
  · have unknown : text.parameters.idxOf? (String.ofList name) = none :=
      List.idxOf?_eq_none_iff.2 known
    have faulty :
        (text.scope reader.level.span).ownFault?
            (reader.level.offset reader.level.cursor)
            (.word (.name name shape)) =
          some
            (.unknownParameter text.formula (String.ofList name)
              text.parameters) :=
      if_neg known
    simp only [unknown, faultAt?, Scope.tokenFault?, faulty, Option.some_or]
    exact .fault _

/-! ## Groups -/

/-- A span inside of the text is as long as it says. -/
theorem length_slice
    (start : Nat)
    {stop : Nat}
    (inside : stop ≤ text.characters.size) :
    (text.slice start stop).length = stop - start := by
  rw [slice_eq, List.length_take, List.length_drop, ← size_characters]
  omega

/-- The closing bracket that is noted is the one in the level, or stands behind the level. -/
theorem closing_of_left
    (inside : reader.level.span.stop ≤ text.characters.size)
    {rest : List Char}
    (ahead : text.left reader.level = '(' :: rest) :
    match closingDistance 0 rest with
    | some distance =>
        (text.closings[reader.level.cursor]?).join =
            some (reader.level.cursor + 1 + distance) ∧
          distance < rest.length
    | none =>
        ∀ closing,
          (text.closings[reader.level.cursor]?).join = some closing →
            reader.level.span.stop ≤ closing := by
  have tail := slice_succ ahead
  have length := length_slice (reader.level.cursor + 1) inside
  have before : reader.level.cursor < reader.level.span.stop := by
    have whole := length_slice reader.level.cursor inside
    rw [show text.slice reader.level.cursor reader.level.span.stop =
      '(' :: rest from ahead, List.length_cons] at whole
    omega
  rw [tail] at length
  rw [closing_eq ahead, drop_formula before, tail]
  split
  · rename_i distance counted
    rcases (closingDistance_eq_some_iff_append _).1 counted with ⟨found, short⟩
    rw [found]
    exact ⟨rfl, short⟩
  · rename_i missing
    intro closing found
    rcases Option.map_eq_some_iff.1 found with ⟨distance, counted, rfl⟩
    rcases Nat.lt_or_ge distance rest.length with short | far
    · have within := (closingDistance_eq_some_iff_append _).2 ⟨counted, short⟩
      rw [missing] at within
      cases within
    · omega

/-- A group that is not empty is read where an operand may stand, and is put off. -/
theorem reads_group
    (stands : text.StandsBehind previous reader)
    {body : List Char}
    (nonempty : body ≠ [])
    {closing : Nat}
    (spelled : text.slice (reader.level.cursor + 1) closing = body)
    (length : closing = reader.level.cursor + 1 + body.length)
    (inside : closing ≤ text.characters.size) :
    text.Reads (.group body) reader
      (text.faultAt? previous reader (.group body))
      (Except.map (·, false)
        (match
            text.readOperand reader
              (.atom (.unread ⟨reader.level.cursor + 1, closing⟩))
              (closing + 1) with
        | .error fault => .error fault
        | .ok passed =>
            .ok
              { passed with
                deferred :=
                  ⟨reader.level.cursor + 1, closing⟩ :: passed.deferred })) := by
  have sound :
      (text.scope reader.level.span).ownFault?
        (reader.level.offset reader.level.cursor) (.group body) = none := by
    cases body with
    | nil => exact absurd rfl nonempty
    | cons first others => rfl
  have stop :
      closing + 1 =
        reader.level.cursor + (LevelToken.group body).text.length := by
    rw [LevelToken.text, List.length_cons, List.length_append,
      List.length_singleton, length]
    omega
  have unread :
      ∀ span ∈ [(⟨reader.level.cursor + 1, closing⟩ : Span)],
        text.Unread span := by
    intro span member
    rw [List.mem_singleton.1 member]
    exact ⟨inside, by rw [spelled]; exact nonempty⟩
  have reads :=
    reads_operand stands rfl sound _ unread (congrArg (· :: []) spelled)
      (.atom (.unread ⟨reader.level.cursor + 1, closing⟩))
  rw [← stop] at reads
  cases added :
      text.readOperand reader
        (.atom (.unread ⟨reader.level.cursor + 1, closing⟩))
        (closing + 1) with
  | error fault =>
      rw [added] at reads
      exact reads
  | ok passed =>
      rw [added] at reads
      exact reads

theorem reads_readGroup
    (stands : text.StandsBehind previous reader)
    {rest : List Char}
    (ahead : text.left reader.level = '(' :: rest) :
    text.Reads (.ofCharacter '(' rest) reader
      (text.faultAt? previous reader (.ofCharacter '(' rest))
      ((text.readGroup reader).map (·, false)) := by
  have noted := closing_of_left stands.stop_le ahead
  rw [LevelToken.ofCharacter, if_pos rfl]
  cases counted : closingDistance 0 rest with
  | none =>
      rw [counted] at noted
      simp only at noted
      have refused :
          text.readGroup reader = .error (text.closingFault reader.level) := by
        simp only [readGroup]
        split
        · rfl
        · rename_i closing found
          rw [if_pos (noted closing found)]
      rw [refused]
      exact .fault _
  | some distance =>
      rw [counted] at noted
      simp only at noted
      rcases noted with ⟨found, short⟩
      have length :=
        text.length_slice_le (reader.level.cursor + 1) reader.level.span.stop
      rw [slice_succ ahead] at length
      simp only [readGroup, found]
      rw [if_neg (by omega)]
      cases distance with
      | zero =>
          rw [if_pos (by omega), List.take_zero]
          exact .fault _
      | succ distance =>
          rw [if_neg (by omega)]
          have taken :
              (rest.take (distance + 1)).length = distance + 1 := by
            rw [List.length_take, Nat.min_eq_left (Nat.le_of_lt short)]
          have split :
              text.slice (reader.level.cursor + 1) reader.level.span.stop =
                rest.take (distance + 1) ++ rest.drop (distance + 1) := by
            rw [slice_succ ahead, List.take_append_drop]
          have spelled := text.slice_front split
          have inside := stands.stop_le
          rw [taken] at spelled
          apply reads_group stands _ spelled
          · rw [taken]
          · omega
          · rw [← List.length_pos_iff, taken]
            exact Nat.succ_pos distance

/-! ## Operators -/

theorem reads_readOperator
    (stands : text.StandsBehind previous reader)
    (operator : Operator) :
    text.Reads (.symbol operator) reader
      (text.faultAt? previous reader (.symbol operator))
      (text.readOperator reader operator) := by
  have ends := stands.ends
  simp only [readOperator]
  generalize drafted : reader.level.nest.draft = draft at ends ⊢
  cases ends with
  | empty => exact .fault _
  | expecting chain before => exact .fault _
  | complete chain operand =>
      rw [faultAt?, Scope.tokenFault?, Scope.ownFault?, Option.none_or,
        Scope.placeFault?, Option.any_some, operand]
      refine .pass _
        ⟨standsBehind_token (.expecting _ operator) ?_ stands.stop_le
          stands.deferred, rfl, rfl, rfl⟩
      exact Nat.le_succ_of_le stands.start_le

/-! ## Tokens -/

/-- Reading the next token of a level agrees with the check of it. -/
theorem reads_readToken
    (stands : text.StandsBehind previous reader)
    {character : Char}
    {rest : List Char}
    (ahead : text.left reader.level = character :: rest) :
    text.Reads (.first character rest) reader
      (text.faultAt? previous reader (.first character rest))
      (text.readToken reader character) := by
  rw [readToken]
  split
  · rename_i digit
    exact reads_readNumeral stands ahead digit
  · rename_i noDigit
    split
    · rename_i letter
      exact reads_readName stands ahead noDigit letter
    · rename_i noLetter
      rw [LevelToken.first_of_noWord rest noDigit noLetter]
      split
      · rename_i opens
        subst opens
        exact reads_readGroup stands ahead
      · rename_i noOpening
        rw [LevelToken.ofCharacter, if_neg noOpening]
        split
        · exact .fault _
        · cases Operator.ofChar? character with
          | some operator => exact reads_readOperator stands operator
          | none => exact .fault _

/-! ## Levels -/

/-- The fault that is left to find behind a token, in the level at hand and the groups put off. -/
def faultLeft?
    (text : FormulaText)
    (previous : Option LevelToken)
    (reader : Reader) :
    Option ParseError :=
  let scope := text.scope reader.level.span
  let ahead := text.left reader.level
  (scope.scanFault? previous (reader.level.offset reader.level.cursor)
      (levelTokens ahead)).or
    (((groupBodies ahead).reverse ++ text.bodies reader.deferred).findSome?
      fun body => (scope.inner body).firstFault?)

/-- The fault of the next token is the first one. -/
theorem faultLeft?_of_tokenFault?
    {character : Char}
    {rest : List Char}
    (ahead : text.left reader.level = character :: rest)
    {fault : ParseError}
    (found :
      text.faultAt? previous reader (.first character rest) = some fault) :
    text.faultLeft? previous reader = some fault := by
  rw [faultAt?] at found
  simp only [faultLeft?]
  rw [ahead, levelTokens_cons, Scope.scanFault?, found, Option.some_or,
    Option.some_or]

/-- Behind a token without a fault, the fault that is left is the same. -/
theorem faultLeft?_of_advances
    (stands : text.StandsBehind previous reader)
    {character : Char}
    {rest : List Char}
    (ahead : text.left reader.level = character :: rest)
    (sound :
      text.faultAt? previous reader (.first character rest) = none)
    (advances : text.Advances (.first character rest) reader reached) :
    text.faultLeft? previous reader =
      text.faultLeft? (some (.first character rest)) reached := by
  have behind :
      text.left reached.level =
        (character :: rest).drop
          (LevelToken.first character rest).text.length := by
    rw [left, advances.span_eq, advances.cursor_eq]
    apply slice_add
    rw [LevelToken.text_first_append]
    exact ahead
  have offset :
      reached.level.offset reached.level.cursor =
        reader.level.offset reader.level.cursor +
          (LevelToken.first character rest).text.length := by
    have started := stands.start_le
    rw [Level.offset, Level.offset, advances.span_eq, advances.cursor_eq]
    omega
  -- The group that the token may be has moved to the front of those put off.
  have groups :
      (groupBodies (character :: rest)).reverse ++ text.bodies reader.deferred =
        (groupBodies (text.left reached.level)).reverse ++
          text.bodies reached.deferred := by
    rw [advances.bodies_eq, groupBodies_cons, behind, List.reverse_append,
      List.append_assoc]
    cases (LevelToken.first character rest).body? with
    | none => rfl
    | some body => rfl
  rw [faultAt?] at sound
  simp only [faultLeft?]
  rw [ahead, groups, levelTokens_cons, Scope.scanFault?, sound,
    Option.none_or, advances.span_eq, offset, behind]

/-- At the end of a level the fault that is left is that of the end, or in the groups put off. -/
theorem faultLeft?_of_end
    (ended : text.left reader.level = [])
    (previous : Option LevelToken) :
    text.faultLeft? previous reader =
      ((text.scope reader.level.span).endFault? previous).or
        ((text.bodies reader.deferred).findSome? fun body =>
          ((text.scope reader.level.span).inner body).firstFault?) := by
  simp only [faultLeft?]
  rw [ended, levelTokens_nil, groupBodies_nil, Scope.scanFault?,
    List.reverse_nil, List.nil_append]

/-- At the beginning of a group it is the first fault of the group, or in those behind it. -/
theorem faultLeft?_begin
    (span : Span)
    (deferred : List Span) :
    text.faultLeft? none ⟨Level.begin span, deferred⟩ =
      (text.bodies (span :: deferred)).findSome? fun body =>
        ((text.scope span).inner body).firstFault? := by
  have position : (Level.begin span).offset span.start = 0 := Nat.sub_self _
  have spelled :
      text.bodies (span :: deferred) =
        [text.slice span.start span.stop] ++ text.bodies deferred :=
    rfl
  rw [spelled, List.findSome?_append, List.findSome?_singleton,
    Scope.firstFault?_eq, Option.or_assoc, ← position]
  simp only [faultLeft?]
  rw [List.findSome?_append]
  rfl

/-- A group that was put off is read from its beginning. -/
theorem standsBehind_begin
    {span : Span}
    {deferred : List Span}
    (unread : ∀ other ∈ span :: deferred, text.Unread other) :
    text.StandsBehind none ⟨Level.begin span, deferred⟩ := by
  rcases unread span List.mem_cons_self with ⟨inside, nonempty⟩
  exact
    ⟨.empty, fun _ => nonempty, Nat.le_refl _, inside,
      fun other member => unread other (List.mem_cons_of_mem _ member)⟩

/-- Behind the end of a level without a fault, the fault that is left is the same. -/
theorem faultLeft?_of_finishChain
    (stands : text.StandsBehind previous reader)
    (ended : text.left reader.level = [])
    {chain : Sketch}
    (completed : reader.level.nest.draft = .complete chain)
    (finished : List FinishedLevel) :
    match finishChain reader chain finished with
    | .continuing progress =>
        ∃ behind,
          text.StandsBehind behind progress.reader ∧
            text.faultLeft? previous reader =
              text.faultLeft? behind progress.reader
    | .finished _ => text.faultLeft? previous reader = none := by
  have ends := stands.ends
  rw [completed] at ends
  cases ends with
  | complete _ operand =>
      cases nested : reader.level.nest.outers with
      | cons outer outers =>
          simp only [finishChain, nested]
          exact
            ⟨_,
              standsBehind_token (.complete _ operand) stands.start_le
                stands.stop_le stands.deferred,
              rfl⟩
      | nil =>
          rw [faultLeft?_of_end ended, Scope.endFault?_of_isOperand _ operand,
            Option.none_or]
          have unread := stands.deferred
          cases waiting : reader.deferred with
          | cons span deferred =>
              rw [waiting] at unread
              simp only [finishChain, nested, waiting]
              exact
                ⟨none, standsBehind_begin unread,
                  (faultLeft?_begin span deferred).symm⟩
          | nil =>
              simp only [finishChain, nested, waiting]
              rfl

/-- The loop stops with the first fault that is left. -/
theorem readLevels_eq_error_iff
    (stands : text.StandsBehind previous reader)
    (finished : List FinishedLevel)
    (fault : ParseError) :
    text.readLevels ⟨reader, finished⟩ = .error fault ↔
      text.faultLeft? previous reader = some fault := by
  induction work : reader.weight using Nat.strongRecOn
    generalizing reader previous finished with
  | ind work hypothesis =>
      subst work
      cases ahead : text.left reader.level with
      | cons character rest =>
          have found : text.nextCharacter? reader.level = some character := by
            rw [nextCharacter?_eq, ahead, List.head?_cons]
          have inside := text.cursor_lt_of_nextCharacter? found
          have reads := reads_readToken stands ahead
          rw [text.readLevels_of_token found]
          generalize checked :
            text.faultAt? previous reader (.first character rest) = fault?
              at reads
          generalize read : text.readToken reader character = outcome at reads ⊢
          cases reads with
          | fault first =>
              rw [faultLeft?_of_tokenFault? ahead checked, Except.error.injEq,
                Option.some.injEq]
          | pass moved advances =>
              rw [faultLeft?_of_advances stands ahead checked advances]
              exact
                hypothesis _ (text.readToken_weight read inside)
                  advances.behind finished rfl
      | nil =>
          have ended : text.nextCharacter? reader.level = none := by
            rw [nextCharacter?_eq, ahead, List.head?_nil]
          rw [text.readLevels_of_end ended]
          have ends := stands.ends
          generalize drafted : reader.level.nest.draft = draft at ends
          cases ends with
          | empty => exact absurd ahead (stands.begins rfl)
          | expecting chain operator =>
              have position :
                  reader.level.offset (reader.level.span.stop - 1) =
                    (text.scope reader.level.span).expression.length - 1 := by
                rw [scope, length_slice _ stands.stop_le, Level.offset,
                  Nat.sub_right_comm]
              have refused :
                  text.completeChain reader.level =
                    .error
                      (text.operandFault reader.level operator
                        (reader.level.span.stop - 1)) := by
                rw [completeChain, drafted]
              rw [faultLeft?_of_end ahead, refused, operandFault, position,
                Except.error.injEq, Scope.endFault?, Option.some_or,
                Option.some.injEq]
              rfl
          | complete chain operand =>
              have completed :
                  text.completeChain reader.level = .ok chain := by
                rw [completeChain, drafted]
              have outcome :=
                faultLeft?_of_finishChain stands ahead drafted finished
              rw [completed]
              simp only
              split
              · rename_i progress continued
                rw [continued] at outcome
                rcases outcome with ⟨behind, standing, same⟩
                rw [same]
                exact
                  hypothesis _ (finishChain_weight continued) standing
                    progress.finished rfl
              · rename_i levels stopped
                rw [stopped] at outcome
                rw [outcome]
                exact ⟨nofun, nofun⟩

/-- A text with at least one character is a level that has not been read. -/
theorem unread_all
    (nonempty : text.formula ≠ "") :
    text.Unread ⟨0, text.characters.size⟩ := by
  refine ⟨Nat.le_refl _, fun empty => nonempty ?_⟩
  rw [slice_all] at empty
  exact String.toList_eq_nil_iff.1 empty

/-- At the beginning of a text all of it is left to check. -/
theorem faultLeft?_start
    (text : FormulaText) :
    text.faultLeft? none text.start.reader =
      firstFault? text.parameters text.formula := by
  rw [start, faultLeft?_begin]
  simp only [bodies, List.map_cons, List.map_nil, List.findSome?_singleton,
    slice_all]
  rfl

/-- A text that is not empty is read with an error exactly if that is its first fault. -/
theorem readLevels_start_eq_error_iff
    (nonempty : text.formula ≠ "")
    (fault : ParseError) :
    text.readLevels text.start = .error fault ↔
      firstFault? text.parameters text.formula = some fault := by
  rw [← faultLeft?_start]
  apply readLevels_eq_error_iff (standsBehind_begin _)
  intro span member
  rw [List.mem_singleton.1 member]
  exact unread_all nonempty

end FormulaText

/-! ## The rejected texts -/

/--
A text with at least one character is rejected exactly if it has a fault, and
the error is its first fault, in both precedence modes.
-/
theorem parse_eq_error_iff
    {formula : String}
    (nonempty : formula ≠ "")
    (parameters : List String)
    (precedence : Precedence)
    (fault : ParseError) :
    Formula.parse precedence parameters formula = .error fault ↔
      firstFault? parameters formula = some fault := by
  let text := FormulaText.ofString precedence parameters formula
  calc
    Formula.parse precedence parameters formula = .error fault
    _ ↔ text.readLevels text.start = .error fault :=
        Formula.parse_eq_error_iff_readLevels precedence parameters nonempty
          fault
    _ ↔ firstFault? parameters formula = some fault :=
        FormulaText.readLevels_start_eq_error_iff nonempty fault

/-- The group on the right is checked before the one on the left. -/
theorem parse_of_two_faulty_groups :
    "(2&3)*(4+)" ≠ "" ∧
      Formula.parse .climbing [] "(2&3)*(4+)" =
        .error (.missingOperand "(2&3)*(4+)" "4+" '+' 1) := by
  constructor
  · decide
  · rw [parse_eq_error_iff (by decide)]
    decide +kernel

end Formulary
