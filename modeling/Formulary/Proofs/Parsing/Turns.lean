import Mathlib.Data.List.Chain
import Mathlib.Data.List.Nodup
import Formulary.Proofs.Parsing.Run

/-!
# The turns of a parse

A parse jumps: into an inner chain, back to an outer one, and on to the group
that was put off last.  Nevertheless it takes no more than `2 * n + 1` turns
for a text of `n` characters, no token is read twice, and no chain comes to its
end twice.

For this each chain has a mark, the position at which it begins to be read: the
beginning of the text or of a group, or the position behind the operator that
opens an inner chain.  `FormulaText.stages` lists the states in which a parse
takes its turns, each with the marks of the chains at hand.

`FormulaText.TakesTokens` says which tokens a turn reads, and how it ends.
`Reader.Reads` says what tokens do to a reader: they use up their own positions
in what is left to read, and a mark that is new stands right behind one of them.
-/

namespace Formulary

/-! ## What is left to read -/

/-- The position stands in the span. -/
def Span.holds (span : Span) (position : Nat) : Bool :=
  span.start ≤ position ∧ position < span.stop

namespace Reader

/-- The spans that are left to read: the rest of the level, and the groups put off. -/
def remaining (reader : Reader) : List Span :=
  ⟨reader.level.cursor, reader.level.span.stop⟩ :: reader.deferred

/-- The number of spans left to read in which a position stands. -/
def timesLeft (reader : Reader) (position : Nat) : Nat :=
  reader.remaining.countP (·.holds position)

/-- The marks of the groups put off. -/
def deferredMarks (reader : Reader) : List Nat :=
  reader.deferred.map Span.start

/-- The mark of the inner chain that is opened between two readers, if there is one. -/
def openedMarks (reader reached : Reader) : List Nat :=
  if reader.level.nest.outers.length < reached.level.nest.outers.length then
    [reached.level.cursor]
  else
    []

theorem timesLeft_eq
    (reader : Reader)
    (position : Nat) :
    reader.timesLeft position =
      reader.deferred.countP (·.holds position) +
        if reader.level.cursor ≤ position ∧
            position < reader.level.span.stop then
          1
        else
          0 := by
  rw [timesLeft, remaining, List.countP_cons]
  simp only [Span.holds, decide_eq_true_eq]

/-- No mark is new where no chain is opened. -/
theorem openedMarks_eq_nil
    {reader reached : Reader}
    (opensNone :
      reached.level.nest.outers.length ≤ reader.level.nest.outers.length) :
    reader.openedMarks reached = [] :=
  if_neg (Nat.not_lt_of_le opensNone)

/-! ## What tokens do -/

/--
Tokens at some positions lead from one reader to another, and the last one may
move to another chain.  No position is used up unless it is left to read, and no
mark is new unless it stands behind a token.
-/
structure Reads
    (positions : List Nat)
    (reader reached : Reader)
    (moved : Bool) :
    Prop where
  timesLeft :
    ∀ position,
      positions.count position + reached.timesLeft position ≤
        reader.timesLeft position
  marks :
    ∀ mark,
      (reader.openedMarks reached).count mark +
          reached.deferredMarks.count mark ≤
        (positions.map (· + 1)).count mark + reader.deferredMarks.count mark
  opensOne :
    reached.level.nest.outers.length ≤ reader.level.nest.outers.length + 1
  stays :
    moved = false →
      reached.level.nest.outers.length = reader.level.nest.outers.length

namespace Reads

variable {reader between reached : Reader} {moved : Bool}

/-- Tokens that stay with their chain make only marks of groups. -/
theorem of_stays
    {positions : List Nat}
    (timesLeft :
      ∀ position,
        positions.count position + reached.timesLeft position ≤
          reader.timesLeft position)
    (marks :
      ∀ mark,
        reached.deferredMarks.count mark ≤
          (positions.map (· + 1)).count mark + reader.deferredMarks.count mark)
    (stays :
      reached.level.nest.outers.length = reader.level.nest.outers.length) :
    Reads positions reader reached moved where
  timesLeft := timesLeft
  marks mark := by
    rw [openedMarks_eq_nil (Nat.le_of_eq stays), List.count_nil, Nat.zero_add]
    exact marks mark
  opensOne := by
    rw [stays]
    exact Nat.le_succ _
  stays _ := stays

/-- No tokens do nothing. -/
theorem none (reader : Reader) : Reads [] reader reader moved := by
  apply of_stays
  · intro position
    exact Nat.le_of_eq (by rw [List.count_nil, Nat.zero_add])
  · intro mark
    exact Nat.le_add_left _ _
  · rfl

/-- Tokens may follow those that stay with their chain. -/
theorem append
    {positions others : List Nat}
    (first : Reads positions reader between false)
    (second : Reads others between reached moved) :
    Reads (positions ++ others) reader reached moved where
  timesLeft position := by
    have before := first.timesLeft position
    have behind := second.timesLeft position
    rw [List.count_append]
    omega
  marks mark := by
    have before := first.marks mark
    have behind := second.marks mark
    rw [openedMarks, first.stays rfl] at behind
    rw [openedMarks, List.map_append, List.count_append]
    omega
  opensOne := by
    rw [← first.stays rfl]
    exact second.opensOne
  stays same := (second.stays same).trans (first.stays rfl)

/-- An operand takes the reader behind itself. -/
theorem operand
    (draft : Draft Slot)
    {stop : Nat}
    (ahead : reader.level.cursor < stop)
    (inside : reader.level.cursor < reader.level.span.stop) :
    Reads [reader.level.cursor] reader (reader.advance draft stop) moved := by
  apply of_stays
  · intro position
    rw [timesLeft_eq, timesLeft_eq, List.count_singleton]
    simp only [advance, beq_iff_eq]
    grind
  · intro mark
    exact Nat.le_add_left _ _
  · rfl

/-- A group is passed over and left to read; its mark is new. -/
theorem group
    (draft : Draft Slot)
    {closing : Nat}
    (nonempty : reader.level.cursor + 1 < closing)
    (inside : closing < reader.level.span.stop) :
    Reads [reader.level.cursor] reader
      { reader.advance draft (closing + 1) with
        deferred := ⟨reader.level.cursor + 1, closing⟩ :: reader.deferred }
      moved := by
  apply of_stays
  · intro position
    rw [timesLeft_eq, timesLeft_eq, List.count_singleton]
    simp only [advance, beq_iff_eq, List.countP_cons, Span.holds,
      decide_eq_true_eq]
    grind
  · intro mark
    rw [← List.count_append]
    exact Nat.le_refl _
  · rfl

/-- An operator is one character; the mark of a chain that it opens is new. -/
theorem operator
    {nest : Nest Slot}
    (inside : reader.level.cursor < reader.level.span.stop)
    (opensOne : nest.outers.length ≤ reader.level.nest.outers.length + 1)
    (stays :
      moved = false → nest.outers.length = reader.level.nest.outers.length) :
    Reads [reader.level.cursor] reader
      { reader with
        level :=
          { reader.level with cursor := reader.level.cursor + 1, nest } }
      moved where
  timesLeft position := by
    rw [timesLeft_eq, timesLeft_eq, List.count_singleton]
    simp only [beq_iff_eq]
    grind
  marks mark := by
    apply Nat.add_le_add_right
    rw [openedMarks]
    split
    · exact Nat.le_refl _
    · exact Nat.zero_le _
  opensOne := opensOne
  stays := stays

end Reads

end Reader

/-- An operator that does not move stays among the same outer chains. -/
theorem attach_stays
    {α : Type}
    {precedence : Precedence}
    {operator : Operator}
    {site : Site α}
    (stays : (attach precedence operator site).moved = false) :
    (attach precedence operator site).site = site := by
  rcases site with ⟨chain, outers⟩
  cases chain with
  | single operand => rfl
  | link before previous operand =>
      simp only [attach] at stays ⊢
      split at stays
      · cases stays
      · rename_i looser
        rw [if_neg looser]
        split at stays
        · rename_i tighter
          rw [if_pos tighter]
          split at stays
          · cases stays
          · rfl
        · rename_i same
          rw [if_neg same]

namespace FormulaText

variable (text : FormulaText) {reader reached : Reader} {moved : Bool}

theorem reads_of_readOperand
    {operand : Operand Slot}
    {stop : Nat}
    (read : text.readOperand reader operand stop = .ok reached)
    (ahead : reader.level.cursor < stop)
    (inside : reader.level.cursor < reader.level.span.stop) :
    reader.Reads [reader.level.cursor] reached moved := by
  rcases text.readOperand_eq_ok read with ⟨draft, _, rfl⟩
  exact .operand draft ahead inside

theorem reads_of_readGroup
    (read : text.readGroup reader = .ok reached) :
    reader.Reads [reader.level.cursor] reached moved := by
  rcases text.readGroup_eq_ok read with
    ⟨closing, draft, _, nonempty, inside, _, rfl⟩
  exact .group draft nonempty inside

theorem reads_of_readOperator
    {operator : Operator}
    (read : text.readOperator reader operator = .ok (reached, moved))
    (inside : reader.level.cursor < reader.level.span.stop) :
    reader.Reads [reader.level.cursor] reached moved := by
  simp only [readOperator] at read
  split at read
  · rename_i chain _
    cases read
    apply Reader.Reads.operator inside
    · exact attach_length _ _ _
    · intro stays
      rw [Attachment.nest, attach_stays stays]
  · cases read

/-- Every token does what `Reader.Reads` says. -/
theorem reads_of_readToken
    {character : Char}
    (read : text.readToken reader character = .ok (reached, moved))
    (inside : reader.level.cursor < reader.level.span.stop) :
    reader.Reads [reader.level.cursor] reached moved := by
  rcases text.taken_of_readToken read with
    ⟨operand, stop, ahead, added⟩ | group | ⟨operator, attached⟩
  · exact text.reads_of_readOperand added ahead inside
  · exact text.reads_of_readGroup group
  · exact text.reads_of_readOperator attached inside

/-! ## The tokens of a turn -/

/-- The positions at which the tokens of a turn begin, a last one with a fault among them. -/
def turnTokens (reader : Reader) : List Nat :=
  match found : text.nextCharacter? reader.level with
  | none => []
  | some character =>
      match read : text.readToken reader character with
      | .error _ => [reader.level.cursor]
      | .ok (_, true) => [reader.level.cursor]
      | .ok (reached, false) =>
          have :=
            text.readToken_weight read (text.cursor_lt_of_nextCharacter? found)
          reader.level.cursor :: turnTokens reached
termination_by reader.weight

/-- The tokens by the first one, as a turn goes on by it. -/
theorem turnTokens_eq
    (reader : Reader) :
    text.turnTokens reader =
      match text.nextCharacter? reader.level with
      | none => []
      | some character =>
          match text.readToken reader character with
          | .error _ => [reader.level.cursor]
          | .ok (_, true) => [reader.level.cursor]
          | .ok (reached, false) =>
              reader.level.cursor :: text.turnTokens reached := by
  rw [turnTokens]
  split
  · rename_i found
    simp only [found]
  · rename_i character found
    split
    · rename_i read
      simp only [found, read]
    · rename_i read
      simp only [found, read]
    · rename_i read
      simp only [found, read]

/--
From the reader on tokens are read at the given positions, until one moves to
another chain, one has a fault, or none is left in the level; this is the outcome.
-/
inductive TakesTokens :
    Reader → List Nat → Except ParseError (Reader × Bool) → Prop where
  | ends
      {reader : Reader}
      (ended : text.nextCharacter? reader.level = none) :
      TakesTokens reader [] (.ok (reader, false))
  | fault
      {reader : Reader}
      {character : Char}
      {fault : ParseError}
      (next : text.nextCharacter? reader.level = some character)
      (read : text.readToken reader character = .error fault) :
      TakesTokens reader [reader.level.cursor] (.error fault)
  | moves
      {reader reached : Reader}
      {character : Char}
      (next : text.nextCharacter? reader.level = some character)
      (read : text.readToken reader character = .ok (reached, true)) :
      TakesTokens reader [reader.level.cursor] (.ok (reached, true))
  | stays
      {reader reached : Reader}
      {character : Char}
      {positions : List Nat}
      {outcome : Except ParseError (Reader × Bool)}
      (next : text.nextCharacter? reader.level = some character)
      (read : text.readToken reader character = .ok (reached, false))
      (others : TakesTokens reached positions outcome) :
      TakesTokens reader (reader.level.cursor :: positions) outcome

/-- A turn reads its tokens one after the other, and has the outcome of the last one. -/
theorem takesTokens_turn
    (reader : Reader) :
    text.TakesTokens reader (text.turnTokens reader) (text.turn reader) := by
  fun_induction turn text reader with
  | case1 reader ended =>
      rw [turnTokens_eq]
      simp only [ended]
      exact .ends ended
  | case2 reader character next fault read =>
      rw [turnTokens_eq]
      simp only [next, read]
      exact .fault next read
  | case3 reader character next reached read =>
      rw [turnTokens_eq]
      simp only [next, read]
      exact .moves next read
  | case4 reader character next reached read lighter hypothesis =>
      rw [turnTokens_eq]
      simp only [next, read]
      exact .stays next read hypothesis

variable {text} {positions : List Nat}

/-- Tokens that lead to a reader do what `Reader.Reads` says. -/
theorem TakesTokens.reads
    {outcome : Except ParseError (Reader × Bool)}
    (taken : text.TakesTokens reader positions outcome)
    (accepted : outcome = .ok (reached, moved)) :
    reader.Reads positions reached moved := by
  induction taken with
  | ends ended =>
      cases accepted
      exact .none _
  | fault next read => cases accepted
  | moves next read =>
      cases accepted
      exact text.reads_of_readToken read (text.cursor_lt_of_nextCharacter? next)
  | stays next read others hypothesis =>
      have first :=
        text.reads_of_readToken read (text.cursor_lt_of_nextCharacter? next)
      exact first.append (hypothesis accepted)

/-- Tokens begin at positions left to read, also if the last one has a fault. -/
theorem TakesTokens.count_le
    {outcome : Except ParseError (Reader × Bool)}
    (taken : text.TakesTokens reader positions outcome)
    (position : Nat) :
    positions.count position ≤ reader.timesLeft position := by
  induction taken with
  | ends ended => exact Nat.zero_le _
  | fault next read =>
      -- No reader stands behind a fault, but the cursor was left to read.
      have inside := text.cursor_lt_of_nextCharacter? next
      rw [Reader.timesLeft_eq]
      simp only [List.count_singleton, beq_iff_eq]
      grind
  | moves next read =>
      have first :=
        text.reads_of_readToken read (text.cursor_lt_of_nextCharacter? next)
      exact Nat.le_of_add_right_le (first.timesLeft position)
  | stays next read others hypothesis =>
      have first :=
        text.reads_of_readToken read (text.cursor_lt_of_nextCharacter? next)
      have used := first.timesLeft position
      rw [← List.singleton_append, List.count_append]
      omega

variable (text)

/-- A turn is made up of its tokens. -/
theorem reads_of_turn
    (turned : text.turn reader = .ok (reached, moved)) :
    reader.Reads (text.turnTokens reader) reached moved :=
  (text.takesTokens_turn reader).reads turned

/-! ## The stages of a parse -/

/-- What a turn leads to: another chain of the level, the outer chain, or the next group. -/
inductive Continues (progress : Progress) : Progress → Prop where
  | moves
      {reader : Reader}
      (turned : text.turn progress.reader = .ok (reader, true)) :
      Continues progress ⟨reader, progress.finished⟩
  | closes
      {reader : Reader}
      {chain : Sketch}
      {outer : Outer Slot}
      {outers : List (Outer Slot)}
      (turned : text.turn progress.reader = .ok (reader, false))
      (nested : reader.level.nest.outers = outer :: outers) :
      Continues progress
        ⟨{ reader with
            level :=
              { reader.level with
                nest := ⟨.complete (outer.close chain), outers⟩ } },
          progress.finished⟩
  | begins
      {reader : Reader}
      {chain : Sketch}
      {span : Span}
      {deferred : List Span}
      (turned : text.turn progress.reader = .ok (reader, false))
      (outermost : reader.level.nest.outers = [])
      (waiting : reader.deferred = span :: deferred) :
      Continues progress
        ⟨⟨Level.begin span, deferred⟩,
          ⟨reader.level.span, chain⟩ :: progress.finished⟩

variable {text} {progress next : Progress}

theorem continues_of_takeTurn
    (taken : text.takeTurn progress = .ok (.continuing next)) :
    text.Continues progress next := by
  simp only [takeTurn] at taken
  split at taken
  · cases taken
  · rename_i reader turned
    cases taken
    exact .moves turned
  · rename_i reader turned
    split at taken
    · cases taken
    · rename_i chain complete
      simp only [finishChain] at taken
      split at taken
      · rename_i outer outers nested
        cases taken
        exact .closes turned nested
      · rename_i outermost
        split at taken
        · rename_i span deferred waiting
          cases taken
          exact .begins turned outermost waiting
        · cases taken

/--
The marks of the chains at hand behind a turn, the innermost first.  A level
that is begun has one chain, a chain that is opened stands in front of the
others, and chains that are left or closed are dropped.
-/
def marksBehind (marks : List Nat) (progress next : Progress) : List Nat :=
  if progress.finished.length < next.finished.length then
    [next.reader.level.cursor]
  else
    progress.reader.openedMarks next.reader ++
      marks.drop
        (progress.reader.level.nest.outers.length -
          next.reader.level.nest.outers.length)

theorem marksBehind_level
    (marks : List Nat)
    (progress : Progress)
    (reader : Reader) :
    marksBehind marks progress ⟨reader, progress.finished⟩ =
      progress.reader.openedMarks reader ++
        marks.drop
          (progress.reader.level.nest.outers.length -
            reader.level.nest.outers.length) :=
  if_neg (Nat.lt_irrefl _)

theorem marksBehind_begin
    (marks : List Nat)
    (progress : Progress)
    (span : Span)
    (deferred : List Span)
    (level : FinishedLevel) :
    marksBehind marks progress
        ⟨⟨Level.begin span, deferred⟩, level :: progress.finished⟩ =
      [span.start] :=
  if_pos (Nat.lt_succ_self _)

/-- A chain that is closed into an outer one takes its mark with it. -/
theorem marksBehind_close
    {reader : Reader}
    {outer : Outer Slot}
    {outers : List (Outer Slot)}
    (turned : text.turn progress.reader = .ok (reader, false))
    (nested : reader.level.nest.outers = outer :: outers)
    (draft : Draft Slot)
    (marks : List Nat) :
    marksBehind marks progress
        ⟨{ reader with level := { reader.level with nest := ⟨draft, outers⟩ } },
          progress.finished⟩ =
      marks.tail := by
  have stays := (text.reads_of_turn turned).stays rfl
  rw [nested, List.length_cons] at stays
  have closesOne :
      progress.reader.level.nest.outers.length - outers.length = 1 := by
    omega
  rw [marksBehind_level, closesOne, List.drop_one,
    Reader.openedMarks_eq_nil (by simp only; omega), List.nil_append]

/-- There is a mark for the chain at hand and for each of its outer chains. -/
theorem length_marksBehind
    {marks : List Nat}
    (marked : marks.length = progress.reader.level.nest.outers.length + 1)
    (continues : text.Continues progress next) :
    (marksBehind marks progress next).length =
      next.reader.level.nest.outers.length + 1 := by
  cases continues with
  | moves turned =>
      have opensOne := (text.reads_of_turn turned).opensOne
      rw [marksBehind_level, Reader.openedMarks, List.length_append,
        List.length_drop, marked]
      simp only
      split
      · rw [List.length_singleton]
        omega
      · rw [List.length_nil]
        omega
  | closes turned nested =>
      have stays := (text.reads_of_turn turned).stays rfl
      rw [nested, List.length_cons] at stays
      rw [marksBehind_close turned nested, List.length_tail, marked, ← stays]
      rfl
  | begins turned outermost waiting =>
      rw [marksBehind_begin]
      rfl

/-- A parse in front of a turn, with the marks of the chains at hand, the innermost first. -/
structure Stage where
  progress : Progress
  marks : List Nat
  length_marks :
    marks.length = progress.reader.level.nest.outers.length + 1

namespace Stage

/-- The beginning of a parse: the only chain begins at the beginning of the text. -/
def first (text : FormulaText) : Stage :=
  ⟨text.start, [0], rfl⟩

/-- The stage behind a turn that leads to another one. -/
def behind
    (stage : Stage)
    {next : Progress}
    (taken : text.takeTurn stage.progress = .ok (.continuing next)) :
    Stage :=
  ⟨next, marksBehind stage.marks stage.progress next,
    length_marksBehind stage.length_marks (continues_of_takeTurn taken)⟩

/-- The mark of the chain that is read in the turn. -/
def mark (stage : Stage) : Nat :=
  stage.marks.head
    (List.ne_nil_of_length_eq_add_one stage.length_marks)

theorem marks_eq
    (stage : Stage) :
    stage.marks = stage.mark :: stage.marks.tail :=
  (List.cons_head_tail _).symm

/-- The positions at which the tokens of the turn begin. -/
def tokens (text : FormulaText) (stage : Stage) : List Nat :=
  text.turnTokens stage.progress.reader

/-- The turn ends because no token is left for its chain. -/
def ends (text : FormulaText) (stage : Stage) : Bool :=
  match text.turn stage.progress.reader with
  | .ok (_, moved) => !moved
  | .error _ => false

end Stage

variable (text)

/-- The stages of a parse from one of them on. -/
def stages (stage : Stage) : List Stage :=
  match taken : text.takeTurn stage.progress with
  | .error _ => [stage]
  | .ok (.finished _) => [stage]
  | .ok (.continuing _) =>
      have := text.takeTurn_weight taken
      stage :: stages (stage.behind taken)
termination_by stage.progress.reader.weight

/-- The stages begin with the given one. -/
theorem head?_stages
    (stage : Stage) :
    (text.stages stage).head? = some stage := by
  fun_cases stages text stage with
  | case1 => rfl
  | case2 => rfl
  | case3 => rfl

/-- Each turn leads to the next stage, which has the marks behind it. -/
theorem isChain_stages
    (stage : Stage) :
    (text.stages stage).IsChain fun stage next =>
      text.takeTurn stage.progress = .ok (.continuing next.progress) ∧
        next.marks =
          marksBehind stage.marks stage.progress next.progress := by
  fun_induction stages text stage with
  | case1 => exact .singleton _
  | case2 => exact .singleton _
  | case3 stage next taken lighter hypothesis =>
      rw [List.isChain_cons, head?_stages]
      refine ⟨?_, hypothesis⟩
      rintro _ ⟨⟩
      exact ⟨taken, rfl⟩

/-- The last turn has the outcome of the whole parse. -/
theorem takeTurn_getLast?_stages
    (stage : Stage) :
    (text.stages stage).getLast?.map (text.takeTurn ·.progress) =
      some ((text.readLevels stage.progress).map TurnResult.finished) := by
  fun_induction stages text stage with
  | case1 stage fault taken =>
      rw [readLevels_eq, taken]
      exact congrArg some taken
  | case2 stage levels taken =>
      rw [readLevels_eq, taken]
      exact congrArg some taken
  | case3 stage next taken lighter hypothesis =>
      rw [readLevels_eq, taken, List.getLast?_cons]
      cases last : (text.stages (stage.behind taken)).getLast? with
      | none =>
          rw [last] at hypothesis
          cases hypothesis
      | some final =>
          rw [last] at hypothesis
          exact hypothesis

/-- There are no more turns than work. -/
theorem length_stages_le
    (stage : Stage) :
    (text.stages stage).length ≤ stage.progress.reader.weight + 1 := by
  fun_induction stages text stage with
  | case1 stage fault taken => exact Nat.le_add_left _ _
  | case2 stage levels taken => exact Nat.le_add_left _ _
  | case3 stage next taken lighter hypothesis =>
      rw [List.length_cons]
      apply Nat.succ_le_succ
      exact Nat.le_trans hypothesis lighter

variable {text}

/-- A turn uses up the positions of its tokens in what is left to read. -/
theorem Continues.timesLeft_le
    (continues : text.Continues progress next)
    (position : Nat) :
    (text.turnTokens progress.reader).count position +
        next.reader.timesLeft position ≤
      progress.reader.timesLeft position := by
  cases continues with
  | moves turned => exact (text.reads_of_turn turned).timesLeft position
  | closes turned nested =>
      exact (text.reads_of_turn turned).timesLeft position
  | begins turned outermost waiting =>
      rename_i reader chain span deferred
      have used := (text.reads_of_turn turned).timesLeft position
      have rest :
          reader.remaining =
            ⟨reader.level.cursor, reader.level.span.stop⟩ ::
              (⟨Level.begin span, deferred⟩ : Reader).remaining := by
        rw [Reader.remaining, waiting]
        rfl
      rw [Reader.timesLeft, rest, List.countP_cons] at used
      exact Nat.le_trans (Nat.add_le_add_left (Nat.le_add_right _ _) _) used

variable (text)

/-- No position is the beginning of more tokens than there are spans left in which it stands. -/
theorem count_tokens_le
    (stage : Stage)
    (position : Nat) :
    ((text.stages stage).flatMap (·.tokens text)).count position ≤
      stage.progress.reader.timesLeft position := by
  fun_induction stages text stage with
  | case1 stage fault taken =>
      rw [List.flatMap_singleton]
      exact (text.takesTokens_turn _).count_le position
  | case2 stage levels taken =>
      rw [List.flatMap_singleton]
      exact (text.takesTokens_turn _).count_le position
  | case3 stage next taken lighter hypothesis =>
      have used := (continues_of_takeTurn taken).timesLeft_le position
      rw [List.flatMap_cons, List.count_append]
      exact Nat.le_trans (Nat.add_le_add_left hypothesis _) used

/-! ## Chains that come to their end -/

/-- The marks of the chains at hand and of the groups put off. -/
def Stage.openMarks (stage : Stage) : List Nat :=
  stage.marks ++ stage.progress.reader.deferredMarks

/-- The mark of the chain that comes to its end in the turn, if one does. -/
def Stage.endedMarks (text : FormulaText) (stage : Stage) : List Nat :=
  if stage.ends text then [stage.mark] else []

/-- A mark is that of a chain that comes to its end if the turn reads it up to there. -/
theorem Stage.mem_endedMarks_iff
    (text : FormulaText)
    (stage : Stage)
    (mark : Nat) :
    mark ∈ stage.endedMarks text ↔
      mark = stage.mark ∧
        ∃ reached, text.turn stage.progress.reader = .ok (reached, false) := by
  rw [endedMarks, ends]
  cases text.turn stage.progress.reader with
  | error fault => simp
  | ok result =>
      rcases result with ⟨reached, moved⟩
      cases moved with
      | true => simp
      | false => simp

/-- A chain that comes to its end is one of those at hand. -/
theorem Stage.endedMarks_sublist
    (text : FormulaText)
    (stage : Stage) :
    (stage.endedMarks text).Sublist stage.openMarks := by
  rw [endedMarks, openMarks, marks_eq, List.cons_append]
  split
  · exact (List.nil_sublist _).cons_cons _
  · exact List.nil_sublist _

variable {text}

/-- A turn that does not move brings a chain to its end. -/
theorem Stage.endedMarks_eq
    {stage : Stage}
    (turned : text.turn stage.progress.reader = .ok (reader, moved)) :
    stage.endedMarks text = if moved then [] else [stage.mark] := by
  rw [endedMarks, ends, turned]
  cases moved with
  | true => rfl
  | false => rfl

/-- The mark of a chain that comes to its end is gone, and a new one stands behind a token. -/
theorem Stage.count_openMarks_le
    {stage : Stage}
    (taken : text.takeTurn stage.progress = .ok (.continuing next))
    (mark : Nat) :
    (stage.endedMarks text).count mark +
        (stage.behind taken).openMarks.count mark ≤
      ((stage.tokens text).map (· + 1)).count mark +
        stage.openMarks.count mark := by
  have marksBehind_eq :
      (stage.behind taken).openMarks =
        marksBehind stage.marks stage.progress next ++
          next.reader.deferredMarks :=
    rfl
  have marks_count :
      stage.marks.count mark =
        [stage.mark].count mark + stage.marks.tail.count mark := by
    rw [← List.count_append, List.singleton_append, ← stage.marks_eq]
  rw [marksBehind_eq, openMarks, List.count_append, List.count_append, tokens]
  -- What the tokens make, `Reader.Reads.marks`, is all that is new in each case.
  have continues := continues_of_takeTurn taken
  cases continues with
  | moves turned =>
      rename_i reader
      have made := (text.reads_of_turn turned).marks mark
      have dropped :=
        (List.drop_sublist
          (stage.progress.reader.level.nest.outers.length -
            reader.level.nest.outers.length)
          stage.marks).count_le mark
      rw [endedMarks_eq turned, if_pos rfl, List.count_nil, marksBehind_level,
        List.count_append]
      simp only
      omega
  | closes turned nested =>
      rename_i reader chain outer outers
      have made := (text.reads_of_turn turned).marks mark
      rw [endedMarks_eq turned, if_neg Bool.false_ne_true,
        marksBehind_close turned nested, marks_count]
      simp only [Reader.deferredMarks] at made ⊢
      omega
  | begins turned outermost waiting =>
      rename_i reader chain span deferred
      have made := (text.reads_of_turn turned).marks mark
      have waits :
          reader.deferredMarks = [span.start] ++ deferred.map Span.start := by
        rw [Reader.deferredMarks, waiting]
        rfl
      rw [waits, List.count_append] at made
      rw [endedMarks_eq turned, if_neg Bool.false_ne_true, marksBehind_begin,
        marks_count]
      simp only [Reader.deferredMarks] at made ⊢
      omega

variable (text) in
/-- Each chain that comes to its end is one of those at hand or has its mark behind a token. -/
theorem count_endedMarks_le
    (stage : Stage)
    (mark : Nat) :
    ((text.stages stage).flatMap (·.endedMarks text)).count mark ≤
      (((text.stages stage).flatMap (·.tokens text)).map
          (· + 1)).count mark +
        stage.openMarks.count mark := by
  fun_induction stages text stage with
  | case1 stage fault taken =>
      rw [List.flatMap_singleton]
      exact
        Nat.le_add_left_of_le ((stage.endedMarks_sublist text).count_le mark)
  | case2 stage levels taken =>
      rw [List.flatMap_singleton]
      exact
        Nat.le_add_left_of_le ((stage.endedMarks_sublist text).count_le mark)
  | case3 stage next taken lighter hypothesis =>
      have turn := Stage.count_openMarks_le taken mark
      rw [List.flatMap_cons, List.flatMap_cons, List.map_append,
        List.count_append, List.count_append]
      omega

/-! ## Whole parses -/

/-- A position of the text is left to read once at the beginning. -/
theorem timesLeft_start_le
    (position : Nat) :
    text.start.reader.timesLeft position ≤ 1 :=
  List.countP_le_length

/-- No two tokens of a parse begin at one position. -/
theorem nodup_tokens :
    ((text.stages (.first text)).flatMap (·.tokens text)).Nodup := by
  rw [List.nodup_iff_count]
  intro position
  exact
    Nat.le_trans (text.count_tokens_le _ position)
      (timesLeft_start_le position)

/-- No chain comes to its end twice. -/
theorem nodup_endedMarks :
    ((text.stages (.first text)).flatMap (·.endedMarks text)).Nodup := by
  have origins :
      (((text.stages (.first text)).flatMap (Stage.tokens text)).map
          (· + 1) ++
        (Stage.first text).openMarks).Nodup := by
    rw [show (Stage.first text).openMarks = [0] from rfl,
      List.perm_append_comm.nodup_iff, List.singleton_append,
      List.nodup_cons]
    constructor
    · -- The beginning of the text stands behind no token.
      intro member
      rcases List.mem_map.1 member with ⟨position, _, isZero⟩
      cases isZero
    · exact List.Nodup.map Nat.succ_injective nodup_tokens
  rw [List.nodup_iff_count] at origins ⊢
  intro mark
  have once := origins mark
  rw [List.count_append] at once
  exact Nat.le_trans (text.count_endedMarks_le _ mark) once

end FormulaText

/--
A text of `n` characters is parsed in at most `2 * n + 1` turns, in either mode.
No position is the beginning of two tokens that are read in them, also where the
last token has a fault, and no chain comes to its end in two of them.

The turns begin with nothing of the text read, each leads to the next one, and
the last one has the outcome of the parse.  Its tokens are those that a turn
reads, and a chain comes to its end where no token is left for it.  An empty
text is refused without a turn.
-/
theorem linear_turns_of_parse
    (precedence : Precedence)
    (parameters : List String)
    (formula : String) :
    let text := FormulaText.ofString precedence parameters formula
    let stages := text.stages (.first text)
    (stages.head? = some (.first text) ∧
        stages.IsChain (fun stage next =>
          text.takeTurn stage.progress = .ok (.continuing next.progress) ∧
            next.marks =
              FormulaText.marksBehind stage.marks stage.progress
                next.progress) ∧
          stages.getLast?.map (text.takeTurn ·.progress) =
              some ((text.readLevels text.start).map .finished) ∧
            (formula ≠ "" →
              Formula.parse precedence parameters formula =
                (text.readLevels text.start).map
                  (assemble text.characters.size))) ∧
      (∀ stage ∈ stages,
        text.TakesTokens stage.progress.reader (stage.tokens text)
            (text.turn stage.progress.reader) ∧
          ∀ mark,
            mark ∈ stage.endedMarks text ↔
              mark = stage.mark ∧
                ∃ reached,
                  text.turn stage.progress.reader = .ok (reached, false)) ∧
        stages.length ≤ 2 * formula.length + 1 ∧
          (stages.flatMap (·.tokens text)).Nodup ∧
            (stages.flatMap (·.endedMarks text)).Nodup := by
  intro text stages
  have work : text.start.reader.weight = 2 * formula.length := rfl
  refine ⟨⟨?_, ?_, ?_, ?_⟩, ?_, ?_, ?_, ?_⟩
  · exact text.head?_stages _
  · exact text.isChain_stages _
  · exact text.takeTurn_getLast?_stages _
  · exact Formula.parse_eq_map precedence parameters
  · intro stage _
    exact ⟨text.takesTokens_turn _, stage.mem_endedMarks_iff text⟩
  · rw [← work]
    exact text.length_stages_le _
  · exact FormulaText.nodup_tokens
  · exact FormulaText.nodup_endedMarks

/-- The chains of a product and of a power in it are left for the sum; the group is read last. -/
example :
    let text := FormulaText.ofString .climbing ["x"] "1+2*x^3-(4+x)"
    let stages := text.stages (.first text)
    stages.map (·.marks) = [[0], [4, 0], [6, 4, 0], [0], [9]] ∧
      stages.flatMap (·.tokens text) =
        [0, 1, 2, 3, 4, 5, 6, 7, 8, 9, 10, 11] ∧
        stages.flatMap (·.endedMarks text) = [0, 9] := by
  decide +kernel

end Formulary
