import Formulary.Formula.Traversal
import Formulary.Parsing.Reader

/-!
# Parsing formula texts

A text is read level by level.  A turn reads the tokens of one chain, until
an operator moves to another chain or the level has no more tokens.  A chain
without more tokens must end in an operand; it is closed into its outer chain,
and a level without outer chains is finished.  Then comes the group that was
put off last.

The levels are finished in an order in which a group comes after the level
it stands in.  Assembly goes through them backwards, so that the formula of
each group is there when the level around it asks for it.

Each turn takes away some of the work left, so a text of `n` characters is
parsed in at most `2 * n + 1` turns.
-/

namespace Formulary

/-- A finished level: its span and its chain, in which the groups are not read. -/
structure FinishedLevel where
  span : Span
  sketch : Sketch

namespace FormulaText

variable (text : FormulaText)

/-! ## Turns -/

/--
Read tokens until one moves to another chain or none is left in the level.
The result says which of the two happened.
-/
def turn (reader : Reader) : Except ParseError (Reader × Bool) :=
  match found : text.nextCharacter? reader.level with
  | none => .ok (reader, false)
  | some character =>
      match read : text.readToken reader character with
      | .error fault => .error fault
      | .ok (reader, true) => .ok (reader, true)
      | .ok (reached, false) =>
          have :=
            text.readToken_weight read (text.cursor_lt_of_nextCharacter? found)
          turn reached
termination_by reader.weight

/-- A turn leaves less work when it moves, and no more when it does not. -/
theorem turn_weight
    {reader result : Reader}
    {moved : Bool}
    (taken : text.turn reader = .ok (result, moved)) :
    result.weight + (if moved then 1 else 0) ≤ reader.weight := by
  fun_induction turn text reader with
  | case1 reader found =>
      simp only [Except.ok.injEq, Prod.mk.injEq] at taken
      simp [← taken.1, ← taken.2]
  | case2 => simp at taken
  | case3 reader character found reached read =>
      simp only [Except.ok.injEq, Prod.mk.injEq] at taken
      have lighter :=
        text.readToken_weight read (text.cursor_lt_of_nextCharacter? found)
      rw [← taken.1, ← taken.2]
      exact lighter
  | case4 reader character found reached read lighter hypothesis =>
      have rest := hypothesis taken
      omega

/-! ## Levels -/

/-- The chain of a level without more tokens, which must end in an operand. -/
def completeChain (level : Level) : Except ParseError Sketch :=
  match level.nest.draft with
  | .complete chain => .ok chain
  | .empty =>
      .error (.emptyGroup text.formula (text.expression level.span) 0)
  | .expecting _ operator =>
      .error (text.operandFault level operator (level.span.stop - 1))

/-- The state of a parse: what is being read, and the levels finished, the last one in front. -/
structure Progress where
  reader : Reader
  finished : List FinishedLevel

/-- What follows a turn: another one, or the assembly of the levels. -/
inductive TurnResult where
  | continuing (progress : Progress)
  | finished (levels : List FinishedLevel)

/-- Go on from a chain without more tokens: to its outer chain, the next group, or the assembly. -/
def finishChain
    (reader : Reader)
    (chain : Sketch)
    (finished : List FinishedLevel) :
    TurnResult :=
  let level := reader.level
  match level.nest.outers with
  | outer :: outers =>
      .continuing
        { reader :=
            { reader with
              level :=
                { level with
                  nest := ⟨.complete (outer.close chain), outers⟩ } }
          finished }
  | [] =>
      let finished := ⟨level.span, chain⟩ :: finished
      match reader.deferred with
      | span :: deferred =>
          .continuing { reader := ⟨Level.begin span, deferred⟩, finished }
      | [] => .finished finished

theorem finishChain_weight
    {reader : Reader}
    {chain : Sketch}
    {finished : List FinishedLevel}
    {progress : Progress}
    (continued : finishChain reader chain finished = .continuing progress) :
    progress.reader.weight < reader.weight := by
  simp only [finishChain] at continued
  split at continued
  · rename_i outer outers nested
    simp only [TurnResult.continuing.injEq] at continued
    rw [← continued]
    simp only [Reader.weight, nested, List.length_cons]
    omega
  · split at continued
    · rename_i span deferred waiting
      simp only [TurnResult.continuing.injEq] at continued
      rw [← continued]
      simp only [Reader.weight, Level.begin, waiting, totalWeight_cons,
        Reader.deferredWeight, Span.length, List.length_nil]
      omega
    · simp at continued

/-- Take one turn. -/
def takeTurn (progress : Progress) : Except ParseError TurnResult :=
  match text.turn progress.reader with
  | .error fault => .error fault
  | .ok (reader, true) => .ok (.continuing { progress with reader })
  | .ok (reader, false) =>
      match text.completeChain reader.level with
      | .error fault => .error fault
      | .ok chain => .ok (finishChain reader chain progress.finished)

/-- Each turn leaves less work. -/
theorem takeTurn_weight
    {progress result : Progress}
    (taken : text.takeTurn progress = .ok (.continuing result)) :
    result.reader.weight < progress.reader.weight := by
  simp only [takeTurn] at taken
  split at taken
  · simp at taken
  · rename_i reader turned
    have lighter := text.turn_weight turned
    simp only [Except.ok.injEq, TurnResult.continuing.injEq] at taken
    rw [← taken]
    exact lighter
  · rename_i reader turned
    have lighter := text.turn_weight turned
    split at taken
    · simp at taken
    · simp only [Except.ok.injEq] at taken
      have closed := finishChain_weight taken
      simp only [Bool.false_eq_true, if_false, Nat.add_zero] at lighter
      exact Nat.lt_of_lt_of_le closed lighter

/-- Take turns until every level is finished. -/
def readLevels (progress : Progress) : Except ParseError (List FinishedLevel) :=
  match taken : text.takeTurn progress with
  | .error fault => .error fault
  | .ok (.finished levels) => .ok levels
  | .ok (.continuing reached) =>
      have := text.takeTurn_weight taken
      readLevels reached
termination_by progress.reader.weight

/-- The beginning of a parse: nothing of the whole text is read. -/
def start : Progress :=
  ⟨⟨Level.begin ⟨0, text.characters.size⟩, []⟩, []⟩

end FormulaText

/-! ## Assembly -/

/-- The operand for a slot, where the formulas of groups are found by the start of their span. -/
def fillSlot (groups : Array (Option Formula)) : Slot → Operand Atom
  | .atom atom => .atom atom
  | .unread span =>
      .group ((groups[span.start]?).join.getD Formula.invalid)

/-- The formula of the last level, where those of the groups in it come before it. -/
def assembleOnto
    (groups : Array (Option Formula)) :
    (levels : List FinishedLevel) → Formula
  | [] => Formula.invalid
  | [level] => level.sketch.substitute (fillSlot groups)
  | level :: levels =>
      let formula := level.sketch.substitute (fillSlot groups)
      assembleOnto
        (groups.setIfInBounds level.span.start (some formula))
        levels

/-- The formula of finished levels, given in the order in which their groups are needed. -/
def assemble (size : Nat) (levels : List FinishedLevel) : Formula :=
  assembleOnto (Array.replicate size none) levels

namespace Formula

/-- The formula of a text over a list of parameters, or the first fault of the text. -/
def parse
    (precedence : Precedence)
    (parameters : List String)
    (formula : String) :
    Except ParseError Formula :=
  if formula.isEmpty then
    .error .emptyFormula
  else
    let text := FormulaText.ofString precedence parameters formula
    match text.readLevels text.start with
    | .error fault => .error fault
    | .ok levels => .ok (assemble text.characters.size levels)

/-- The formula of a text, invalid if the text has a fault, and the message about the fault. -/
def parseOrInvalid
    (precedence : Precedence)
    (parameters : List String)
    (formula : String) :
    Formula × Option String :=
  match parse precedence parameters formula with
  | .ok parsed => (parsed, none)
  | .error fault => (invalid, some fault.message)

end Formula

end Formulary
