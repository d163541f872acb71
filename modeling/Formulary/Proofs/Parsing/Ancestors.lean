import Formulary.Proofs.Parsing.Bounds
import Formulary.Proofs.Parsing.Nesting

/-!
# The chains that wait, at every moment of a parse

`FormulaText.Reached` lists the states of a parse, with one step for each token
and for each end of a level; that the parse goes through them is stated by
`FormulaText.GoesThrough`.  `Nest.Moves` lists what a step does to the chain at
hand and the outer ones: an operand is added, an operator is attached, a chain
is closed into the next outer one, or a group put off is begun.

With climbing precedence all of these keep the chains waiting behind looser
operators the further out they are.  As there are three priorities, no more
than three chains are there at once; and where an operator climbs, it may stop
at the first chain that waits behind a looser operator, since all further ones
do.
-/

namespace Formulary

section

variable {α : Type}

/-! ## Priorities -/

/-- The last operator of a draft, none if it has only one operand. -/
def Draft.operator? : Draft α → Option Operator
  | .empty => none
  | .complete (.single _) => none
  | .complete (.link _ operator _) => some operator
  | .expecting _ operator => some operator

/-- The priorities that the chain at hand and its outer ones have, from the innermost outwards. -/
def Nest.priorities (nest : Nest α) : List (Option Nat) :=
  nest.draft.operator?.map Operator.priority ::
    nest.outers.map fun outer => some outer.operator.priority

/-- The chain at hand and those around it end behind looser operators the further out they are. -/
inductive Nest.Ordered : Nest α → Prop where
  | empty : Ordered ⟨.empty, []⟩
  | complete
      {chain : Chain α}
      {outers : List (Outer α)}
      (ordered : Site.Ordered ⟨chain, outers⟩) :
      Ordered ⟨.complete chain, outers⟩
  | expecting
      {chain : Chain α}
      {operator : Operator}
      {outers : List (Outer α)}
      (loosening : Loosening (⟨chain, operator⟩ :: outers)) :
      Ordered ⟨.expecting chain operator, outers⟩

/-- An ordered nest has one priority, or those of chains that wait behind looser and looser operators. -/
theorem Nest.Ordered.priorities_eq
    {nest : Nest α}
    (ordered : nest.Ordered) :
    nest.priorities = [none] ∨
      ∃ frames : List (Outer α),
        Loosening frames ∧
          nest.priorities =
            frames.map fun outer => some outer.operator.priority := by
  cases ordered with
  | empty => exact .inl rfl
  | complete ordered =>
      cases ordered with
      | single operand => exact .inl rfl
      | link loosening => exact .inr ⟨_, loosening, rfl⟩
  | expecting loosening => exact .inr ⟨_, loosening, rfl⟩

/-- The priorities decrease from each chain to the one around it. -/
theorem Nest.Ordered.decreasing
    {nest : Nest α}
    (ordered : nest.Ordered) :
    nest.priorities.Pairwise fun inner outer => outer < inner := by
  rcases ordered.priorities_eq with alone | ⟨frames, loosening, priorities⟩
  · rw [alone]
    exact List.pairwise_singleton _ _
  · rw [priorities, List.pairwise_map]
    exact loosening.imp Option.some_lt_some.2

/-- A decreasing list of numbers below a bound has no more of them than the bound. -/
theorem length_le_of_decreasing
    {numbers : List Nat}
    (decreasing : numbers.Pairwise fun inner outer => outer < inner)
    {bound : Nat}
    (below : ∀ number ∈ numbers, number < bound) :
    numbers.length ≤ bound := by
  induction numbers generalizing bound with
  | nil => exact Nat.zero_le _
  | cons first numbers hypothesis =>
      rcases List.pairwise_cons.1 decreasing with ⟨belowFirst, rest⟩
      exact
        Nat.lt_of_le_of_lt (hypothesis rest belowFirst)
          (below first List.mem_cons_self)

/-- There are no more chains than priorities. -/
theorem Nest.Ordered.length_priorities
    {nest : Nest α}
    (ordered : nest.Ordered) :
    nest.priorities.length ≤ 3 := by
  rcases ordered.priorities_eq with alone | ⟨frames, loosening, priorities⟩
  · rw [alone]
    decide
  · have below :
        ∀ priority ∈ frames.map (fun outer => outer.operator.priority),
          priority < 3 := by
      intro priority member
      rcases List.mem_map.1 member with ⟨outer, _, rfl⟩
      exact Nat.lt_succ_of_le outer.operator.priority_le_two
    have few :=
      length_le_of_decreasing ((loosening_iff frames).1 loosening) below
    rw [List.length_map] at few
    rw [priorities, List.length_map]
    exact few

/-- The chains around the one at hand wait behind looser operators the further out they are. -/
theorem Nest.Ordered.loosening
    {nest : Nest α}
    (ordered : nest.Ordered) :
    Loosening nest.outers := by
  cases ordered with
  | empty => exact List.Pairwise.nil
  | complete ordered =>
      cases ordered with
      | single operand => exact List.Pairwise.nil
      | link loosening => exact loosening.of_cons
  | expecting loosening => exact loosening.of_cons

/-! ## What a step does to the chains -/

/-- What a step of a parse does to the chain at hand and the outer ones. -/
inductive Nest.Moves (precedence : Precedence) : Nest α → Nest α → Prop where
  | operand
      {draft next : Draft α}
      {outers : List (Outer α)}
      (operand : Operand α)
      (added : draft.addOperand? operand = some next) :
      Moves precedence ⟨draft, outers⟩ ⟨next, outers⟩
  | operator
      (chain : Chain α)
      (outers : List (Outer α))
      (operator : Operator) :
      Moves precedence ⟨.complete chain, outers⟩
        ((attach precedence operator ⟨chain, outers⟩).nest operator)
  | close
      (chain : Chain α)
      (outer : Outer α)
      (outers : List (Outer α)) :
      Moves precedence ⟨.complete chain, outer :: outers⟩
        ⟨.complete (outer.close chain), outers⟩
  | begin
      (chain : Chain α) :
      Moves precedence ⟨.complete chain, []⟩ ⟨.empty, []⟩

/-- With climbing precedence every step keeps the order of the chains. -/
theorem Nest.Ordered.moves
    {nest next : Nest α}
    (ordered : nest.Ordered)
    (moves : nest.Moves .climbing next) :
    next.Ordered := by
  cases moves with
  | operand operand added =>
      cases ordered with
      | empty =>
          cases added
          exact .complete (.single operand)
      | complete _ => cases added
      | expecting loosening =>
          cases added
          exact .complete (.link loosening)
  | operator chain outers operator =>
      cases ordered with
      | complete site =>
          have extended := site.extend operator chain.last
          cases extended with
          | link loosening => exact .expecting loosening
  | close chain outer outers =>
      cases ordered with
      | complete site =>
          cases site with
          | link loosening => exact .complete (.link loosening.of_cons)
  | begin chain => exact .empty

/-! ## Climbing to the outermost chain -/

/--
The chain is closed into the outermost of the outer ones that wait behind an
operator no looser than a priority, with all that are between.
-/
inductive ClosesOutermost (priority : Nat) : Site α → Site α → Prop where
  | intro
      {chain : Chain α}
      {between beyond : List (Outer α)}
      {ancestor : Outer α}
      (binds : priority ≤ ancestor.operator.priority)
      (outermost : ∀ outer ∈ beyond, outer.operator.priority < priority) :
      ClosesOutermost priority ⟨chain, between ++ ancestor :: beyond⟩
        ⟨ancestor.close (Site.close ⟨chain, between⟩), beyond⟩

/-- A chain that could be closed into the next outer one first is closed as far out. -/
theorem ClosesOutermost.past
    {priority : Nat}
    {chain : Chain α}
    {outer : Outer α}
    {outers : List (Outer α)}
    {reached : Site α}
    (closes : ClosesOutermost priority ⟨outer.close chain, outers⟩ reached) :
    ClosesOutermost priority ⟨chain, outer :: outers⟩ reached := by
  cases closes with
  | @intro _ between beyond ancestor binds outermost =>
      have further :
          ClosesOutermost priority
            ⟨chain, (outer :: between) ++ ancestor :: beyond⟩
            ⟨ancestor.close (Site.close ⟨chain, outer :: between⟩), beyond⟩ :=
        .intro binds outermost
      exact further

/-- Climbing stops at the first chain that waits behind a looser operator, and misses none. -/
theorem closesOutermost_of_climb
    {outers : List (Outer α)}
    (loosening : Loosening outers)
    {priority : Nat}
    {chain : Chain α}
    {reached : Site α}
    (climbed : climb .climbing priority chain outers = some reached) :
    ClosesOutermost priority ⟨chain, outers⟩ reached := by
  induction outers generalizing chain with
  | nil => cases climbed
  | cons outer outers hypothesis =>
      rcases Nat.lt_or_ge outer.operator.priority priority with looser | binds
      · rw [climb_of_tighter looser] at climbed
        cases climbed
      · rw [climb_climbing binds] at climbed
        cases higher : climb .climbing priority (outer.close chain) outers with
        | none =>
            rw [higher] at climbed
            cases climbed
            have next :
                ClosesOutermost priority ⟨chain, [] ++ outer :: outers⟩
                  ⟨outer.close chain, outers⟩ :=
              .intro binds ((climb_eq_none_iff loosening.of_cons _ _).1 higher)
            exact next
        | some site =>
            rw [higher] at climbed
            cases climbed
            exact (hypothesis loosening.of_cons higher).past

end

/-! ## The states of a parse -/

namespace FormulaText

/-- The states that the reading of a text goes through, up to a fault or to its end. -/
inductive Reached (text : FormulaText) : Progress → Prop where
  | start : Reached text text.start
  | step
      {progress next : Progress}
      (reached : Reached text progress)
      (stepped : text.step progress = .ok (.continuing next)) :
      Reached text next

variable {text : FormulaText} {reader reached : Reader}

theorem moves_of_readOperand
    {operand : Operand Slot}
    {stop : Nat}
    (read : text.readOperand reader operand stop = .ok reached) :
    reader.level.nest.Moves text.precedence reached.level.nest := by
  rcases text.readOperand_eq_ok read with ⟨draft, added, rfl⟩
  exact .operand operand added

theorem moves_of_readGroup
    (read : text.readGroup reader = .ok reached) :
    reader.level.nest.Moves text.precedence reached.level.nest := by
  rcases text.readGroup_eq_ok read with ⟨closing, draft, _, _, _, added, rfl⟩
  exact .operand (.atom (.unread ⟨_, closing⟩)) added

theorem moves_of_readOperator
    {operator : Operator}
    {moved : Bool}
    (read : text.readOperator reader operator = .ok (reached, moved)) :
    reader.level.nest.Moves text.precedence reached.level.nest := by
  rcases reader with ⟨⟨span, cursor, draft, outers⟩, deferred⟩
  cases draft with
  | complete chain =>
      cases read
      exact .operator chain outers operator
  | empty => cases read
  | expecting chain operator => cases read

/-- A token adds an operand or attaches an operator. -/
theorem moves_of_readToken
    {character : Char}
    {moved : Bool}
    (read : text.readToken reader character = .ok (reached, moved)) :
    reader.level.nest.Moves text.precedence reached.level.nest := by
  rcases text.taken_of_readToken read with
    ⟨operand, stop, _, added⟩ | group | ⟨operator, attached⟩
  · exact moves_of_readOperand added
  · exact moves_of_readGroup group
  · exact moves_of_readOperator attached

/-- The end of a level closes its chain into the next outer one, or begins a group put off. -/
theorem moves_of_finishChain
    {chain : Sketch}
    {finished : List FinishedLevel}
    {next : Progress}
    (completed : text.completeChain reader.level = .ok chain)
    (continued : finishChain reader chain finished = .continuing next) :
    reader.level.nest.Moves text.precedence next.reader.level.nest := by
  rcases reader with ⟨⟨span, cursor, draft, outers⟩, deferred⟩
  cases draft with
  | empty => cases completed
  | expecting chain operator => cases completed
  | complete chain =>
      cases completed
      cases outers with
      | cons outer outers =>
          cases continued
          exact .close chain outer outers
      | nil =>
          cases deferred with
          | cons span deferred =>
              cases continued
              exact .begin chain
          | nil => cases continued

/-- A step after which the parse goes on reads a token, or finishes a chain. -/
theorem step_eq_continuing
    {progress next : Progress}
    (stepped : text.step progress = .ok (.continuing next)) :
    (∃ character reached moved,
        text.nextCharacter? progress.reader.level = some character ∧
          text.readToken progress.reader character = .ok (reached, moved) ∧
            next = { progress with reader := reached }) ∨
      ∃ chain,
        text.nextCharacter? progress.reader.level = none ∧
          text.completeChain progress.reader.level = .ok chain ∧
            finishChain progress.reader chain progress.finished =
              .continuing next := by
  rw [step] at stepped
  split at stepped
  · rename_i character found
    cases read : text.readToken progress.reader character with
    | error fault =>
        rw [read] at stepped
        cases stepped
    | ok result =>
        rw [read] at stepped
        cases stepped
        exact .inl ⟨character, result.1, result.2, found, read, rfl⟩
  · rename_i ended
    cases completed : text.completeChain progress.reader.level with
    | error fault =>
        rw [completed] at stepped
        cases stepped
    | ok chain =>
        rw [completed] at stepped
        exact .inr ⟨chain, ended, rfl, Except.ok.inj stepped⟩

/-- A step after which the parse goes on moves the chains in one of the four ways. -/
theorem moves_of_step
    {progress next : Progress}
    (stepped : text.step progress = .ok (.continuing next)) :
    progress.reader.level.nest.Moves text.precedence
      next.reader.level.nest := by
  rcases step_eq_continuing stepped with
    ⟨character, reached, moved, _, read, rfl⟩ |
      ⟨chain, _, completed, continued⟩
  · exact moves_of_readToken read
  · exact moves_of_finishChain completed continued

/-- A step reads the next token of a level. -/
theorem step_of_readToken
    {character : Char}
    (next : text.nextCharacter? reader.level = some character)
    {moved : Bool}
    (read : text.readToken reader character = .ok (reached, moved))
    (finished : List FinishedLevel) :
    text.step ⟨reader, finished⟩ = .ok (.continuing ⟨reached, finished⟩) := by
  simp only [step, next, read]
  rfl

/-- Behind a turn is a reached state, at the end of its level if the turn does not move. -/
theorem Reached.turn
    {finished : List FinishedLevel}
    (begins : text.Reached ⟨reader, finished⟩)
    {moved : Bool}
    (turned : text.turn reader = .ok (reached, moved)) :
    text.Reached ⟨reached, finished⟩ ∧
      (moved = false → text.nextCharacter? reached.level = none) := by
  fun_induction FormulaText.turn text reader with
  | case1 reader ended =>
      cases turned
      exact ⟨begins, fun _ => ended⟩
  | case2 => cases turned
  | case3 reader character next between read =>
      cases turned
      refine ⟨.step begins (step_of_readToken next read _), ?_⟩
      intro stays
      cases stays
  | case4 reader character next between read lighter hypothesis =>
      exact hypothesis (.step begins (step_of_readToken next read _)) turned

/-- The turns of a parse end in reached states. -/
theorem Reached.takeTurn
    {progress next : Progress}
    (begins : text.Reached progress)
    (taken : text.takeTurn progress = .ok (.continuing next)) :
    text.Reached next := by
  simp only [FormulaText.takeTurn] at taken
  split at taken
  · cases taken
  · rename_i reader turned
    cases taken
    exact (begins.turn turned).1
  · rename_i reader turned
    rcases begins.turn turned with ⟨reached, ended⟩
    cases completed : text.completeChain reader.level with
    | error fault =>
        rw [completed] at taken
        cases taken
    | ok chain =>
        rw [completed] at taken
        apply Reached.step reached
        simp only [FormulaText.step, ended rfl, completed]
        exact taken

/--
A parse goes through the state.  Its loop comes to the state and goes on from
there by a step, and the turns of the loop end in states that are listed as well.
-/
structure GoesThrough (text : FormulaText) (progress : Progress) : Prop where
  /-- From the beginning of the text the loop has the outcome that it has from here. -/
  comes : text.readLevels text.start = text.readLevels progress
  /-- The outcome is that of the next step, or of the loop behind it. -/
  goesOn :
    text.readLevels progress =
      match text.step progress with
      | .error fault => .error fault
      | .ok (.finished levels) => .ok levels
      | .ok (.continuing reached) => text.readLevels reached
  /-- A whole turn leads to a state that single steps lead to as well. -/
  turns :
    ∀ next,
      text.takeTurn progress = .ok (.continuing next) → text.Reached next

/-- A parse goes through all states that are reached. -/
theorem Reached.goesThrough
    {progress : Progress}
    (reached : text.Reached progress) :
    text.GoesThrough progress where
  comes := by
    induction reached with
    | start => rfl
    | step _ stepped hypothesis => rw [hypothesis, readLevels_eq_step, stepped]
  goesOn := readLevels_eq_step progress
  turns _ taken := reached.takeTurn taken

/-- A parse has the outcome of the loop from any reached state on. -/
theorem Reached.parse_eq
    {precedence : Precedence}
    {parameters : List String}
    {formula : String}
    {progress : Progress}
    (reached : (ofString precedence parameters formula).Reached progress)
    (nonempty : formula ≠ "") :
    let text := ofString precedence parameters formula
    Formula.parse precedence parameters formula =
      (text.readLevels progress).map (assemble text.characters.size) := by
  intro text
  rw [← reached.goesThrough.comes]
  exact Formula.parse_eq_map precedence parameters nonempty

/-- With climbing precedence the chains are in order in every state of a parse. -/
theorem Reached.ordered
    {progress : Progress}
    (reached : text.Reached progress)
    (climbing : text.precedence = .climbing) :
    progress.reader.level.nest.Ordered := by
  induction reached with
  | start => exact .empty
  | step _ stepped hypothesis =>
      have moves := moves_of_step stepped
      rw [climbing] at moves
      exact hypothesis.moves moves

end FormulaText

/--
Climbing precedence keeps formulas shallow.  The depth of a parsed formula is
bounded by the nesting of the brackets in its text alone.  And in every state
that a parse goes through, whether it comes to an end or to a fault, the chain
at hand and those around it have strictly decreasing priorities, so there are
three at most; and an operator climbs to the outermost of the chains that are
no looser than itself, if there is any.
-/
theorem climbing_shallow
    (parameters : List String)
    (formula : String) :
    (∀ parsed,
        Formula.parse .climbing parameters formula = .ok parsed →
          parsed.depth ≤ 3 * (bracketNesting formula.toList + 1)) ∧
      let text := FormulaText.ofString .climbing parameters formula
      ∀ progress,
        text.Reached progress →
          (text.GoesThrough progress ∧
            (formula ≠ "" →
              Formula.parse .climbing parameters formula =
                (text.readLevels progress).map
                  (assemble text.characters.size))) ∧
            (progress.reader.level.nest.priorities.Pairwise
                fun inner outer => outer < inner) ∧
              progress.reader.level.nest.priorities.length ≤ 3 ∧
                ∀ priority chain,
                  (climb .climbing priority chain
                        progress.reader.level.nest.outers = none ↔
                      ∀ outer ∈ progress.reader.level.nest.outers,
                        outer.operator.priority < priority) ∧
                    ∀ reached,
                      climb .climbing priority chain
                          progress.reader.level.nest.outers = some reached →
                        ClosesOutermost priority
                          ⟨chain, progress.reader.level.nest.outers⟩
                          reached := by
  refine ⟨?_, ?_⟩
  · intro parsed accepted
    exact depth_le_of_parse accepted
  · intro text progress reached
    have ordered := reached.ordered rfl
    refine ⟨⟨reached.goesThrough, reached.parse_eq⟩, ordered.decreasing,
      ordered.length_priorities, ?_⟩
    intro priority chain
    constructor
    · exact climb_eq_none_iff ordered.loosening priority chain
    · intro reached climbed
      exact closesOutermost_of_climb ordered.loosening climbed

/-- Behind a power in a product in a sum three chains are there, and a sum closes both outer ones. -/
theorem climbing_shallow_of_power_in_product :
    let name : Operand Atom := .atom (.variable 0)
    let pair (left : Operand Atom) (operator : Operator) (right : Operand Atom) :
        Formula :=
      .link (.single left) operator right
    let power := pair (.group (pair name .subtract name)) .power name
    let parsed := pair name .add (.group (pair name .multiply (.group power)))
    (Formula.parse .climbing ["x"] "x+x*(x-x)^x" = .ok parsed ∧
        parsed.depth ≤ 3 * (1 + 1)) ∧
      ∃ progress,
        (FormulaText.ofString .climbing ["x"] "x+x*(x-x)^x").Reached progress ∧
          progress.reader.level.nest.priorities = [some 2, some 1, some 0] ∧
            ∀ chain,
              ∃ reached,
                climb .climbing 0 chain progress.reader.level.nest.outers =
                    some reached ∧
                  ClosesOutermost 0
                    ⟨chain, progress.reader.level.nest.outers⟩ reached := by
  intro name pair power parsed
  let word : Operand Word := .atom (.name ['x'] (.letter (by decide)))
  let group : Operand Word := .group (.link (.single word) .subtract word)
  let expression : Expression :=
    .link (.link (.link (.single word) .add word) .multiply group) .power word
  have spelled : expression.text = "x+x*(x-x)^x".toList := rfl
  have known : expression.Known ["x"] := by
    decide
  have accepted :
      Formula.parse .climbing ["x"] "x+x*(x-x)^x" = .ok parsed :=
    parse_eq_formula spelled known
  rcases climbing_shallow ["x"] "x+x*(x-x)^x" with ⟨shallow, chains⟩
  constructor
  · exact ⟨accepted, shallow _ accepted⟩
  · let text := FormulaText.ofString .climbing ["x"] "x+x*(x-x)^x"
    let span : Span := ⟨0, 11⟩
    let name : Operand Slot := .atom (.atom (.variable 0))
    let unread : Operand Slot := .atom (.unread ⟨5, 8⟩)
    let sum : Outer Slot := ⟨.single name, .add⟩
    let product : Outer Slot := ⟨.single name, .multiply⟩
    have stepName
        {reader reached : Reader}
        (next : text.nextCharacter? reader.level = some 'x')
        (read : text.readName reader = .ok reached) :
        text.step ⟨reader, []⟩ = .ok (.continuing ⟨reached, []⟩) := by
      have token :
          text.readToken reader 'x' = (text.readName reader).map (·, false) :=
        rfl
      rw [read] at token
      exact FormulaText.step_of_readToken next token []
    have first :
        text.Reached
          ⟨⟨⟨span, 1, ⟨.complete (.single name), []⟩⟩, []⟩, []⟩ :=
      .step .start (stepName rfl ((FormulaText.readName_eq rfl).trans rfl))
    have plus :
        text.Reached
          ⟨⟨⟨span, 2, ⟨.expecting (.single name) .add, []⟩⟩, []⟩, []⟩ :=
      .step first rfl
    have second :
        text.Reached
          ⟨⟨⟨span, 3, ⟨.complete (.link (.single name) .add name), []⟩⟩, []⟩,
            []⟩ :=
      .step plus (stepName rfl ((FormulaText.readName_eq rfl).trans rfl))
    have times :
        text.Reached
          ⟨⟨⟨span, 4, ⟨.expecting (.single name) .multiply, [sum]⟩⟩, []⟩,
            []⟩ :=
      .step second rfl
    have bracket :
        text.Reached
          ⟨⟨⟨span, 9,
              ⟨.complete (.link (.single name) .multiply unread), [sum]⟩⟩,
            [⟨5, 8⟩]⟩, []⟩ :=
      .step times rfl
    have power :
        text.Reached
          ⟨⟨⟨span, 10, ⟨.expecting (.single unread) .power, [product, sum]⟩⟩,
            [⟨5, 8⟩]⟩, []⟩ :=
      .step bracket rfl
    refine ⟨_, power, rfl, ?_⟩
    intro chain
    exact ⟨_, rfl, ((chains _ power).2.2.2 0 chain).2 _ rfl⟩

end Formulary
