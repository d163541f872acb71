import Formulary.Proofs.Parsing.Lexemes
import Formulary.Proofs.Parsing.Soundness

/-!
# Parsing keeps the tokens of a text

A parsed formula, read in order, has the numerals, names and operators of its
text: none is lost, none is added, and none moves.  Its variables are
parameters, and every chain in it has one operator fewer than operands.

A formula is assembled from levels whose groups stand for parts of the text.
`Ready` says of a list of levels that each group is in the table when its turn
comes, so that the invalid formula never takes the place of a missing one.
-/

namespace Formulary

/-! ## Assembly without a missing group -/

/-- The table has the formula of every group that a level asks for. -/
def FinishedLevel.Filled
    (groups : Array (Option Formula))
    (level : FinishedLevel) :
    Prop :=
  ∀ span, Slot.unread span ∈ level.sketch.atoms →
    ∃ formula, groups[span.start]? = some (some formula)

/-- The table has the formula of every group that a level asks for when the turn of the level comes. -/
def Ready (groups : Array (Option Formula)) : List FinishedLevel → Prop
  | [] => True
  | level :: levels =>
      level.Filled groups ∧ Ready (recordLevel groups level) levels

theorem ready_append
    (groups : Array (Option Formula))
    (front back : List FinishedLevel) :
    Ready groups (front ++ back) ↔
      Ready groups front ∧ Ready (front.foldl recordLevel groups) back := by
  induction front generalizing groups with
  | nil => exact ⟨fun ready => ⟨trivial, ready⟩, fun ready => ready.2⟩
  | cons level front hypothesis =>
      rw [List.cons_append, Ready, Ready, hypothesis, List.foldl_cons,
        and_assoc]

theorem ready_singleton
    {groups : Array (Option Formula)}
    {level : FinishedLevel}
    (filled : level.Filled groups) :
    Ready groups [level] :=
  ⟨filled, trivial⟩

/-- A group in an operand that is read is one of the passages put off. -/
theorem Operand.exists_passage_of_mem_slot
    {parameters : List String}
    {position : Nat}
    {operand : Operand Word}
    {span : Span}
    (member :
      .atom (Slot.unread span) ∈
        (operand.slot parameters position).reading) :
    ∃ passage ∈ operand.passages position, passage.span = span := by
  cases operand with
  | atom word =>
      rw [Operand.slot, Operand.reading_atom, List.mem_singleton] at member
      cases member
  | group body =>
      rw [Operand.slot, Operand.reading_atom, List.mem_singleton] at member
      cases member
      exact ⟨_, List.mem_singleton_self _, rfl⟩

/-- A group in a site that is read is one of the passages put off. -/
theorem Expression.exists_passage_of_mem_siteAt
    {precedence : Precedence}
    {parameters : List String}
    {start : Nat}
    {span : Span} :
    {expression : Expression} →
    .atom (Slot.unread span) ∈
        (expression.siteAt precedence parameters start).reading →
      ∃ passage ∈ expression.passages start, passage.span = span
  | .single operand, member => by
      rw [Expression.siteAt, Site.reading_nil, Chain.reading_single] at member
      exact Operand.exists_passage_of_mem_slot member
  | .link before operator operand, member => by
      rw [Expression.siteAt, Site.reading_extend, List.mem_append] at member
      rcases member with inBefore | behind
      · rcases Expression.exists_passage_of_mem_siteAt inBefore with
          ⟨passage, inPassages, same⟩
        exact ⟨passage, List.mem_append_left _ inPassages, same⟩
      · rcases List.mem_cons.1 behind with isOperator | inOperand
        · cases isOperator
        · rcases Operand.exists_passage_of_mem_slot inOperand with
            ⟨passage, inPassages, same⟩
          exact ⟨passage, List.mem_append_right _ inPassages, same⟩

section

variable {precedence : Precedence} {parameters : List String}

/-- With the formulas of its passages in the table, a level is filled. -/
theorem Passage.filled_finish
    {groups : Array (Option Formula)}
    (passage : Passage)
    (placed :
      passage.expression.Placed precedence parameters groups
        passage.span.start) :
    (passage.finish precedence parameters).Filled groups := by
  intro span member
  rw [Passage.finish, Chain.atoms_eq_reading, Site.reading_close,
    List.mem_filterMap] at member
  rcases member with ⟨lexeme, inReading, isAtom⟩
  cases lexeme with
  | atom slot =>
      cases isAtom
      rcases Expression.exists_passage_of_mem_siteAt inReading with
        ⟨inner, inPassages, rfl⟩
      exact ⟨_, placed inner inPassages⟩
  | operator operator => cases isAtom

mutual

/-- The levels of a syntax tree are finished in an order in which each is filled. -/
theorem Expression.ready_levels
    {groups : Array (Option Formula)}
    {start : Nat} :
    (expression : Expression) →
    start + expression.text.length ≤ groups.size →
    Ready groups (expression.levels precedence parameters start)
  | .single operand, room => by
      rw [Expression.text_single] at room
      exact Operand.ready_levels operand room
  | .link before operator operand, room => by
      rw [Expression.text_link, List.length_append, List.length_cons] at room
      have roomBefore :
          start + (Expression.text before).length ≤ groups.size := by
        omega
      rcases
          Expression.placed_levels precedence parameters groups start before
            roomBefore with
        ⟨fills, _⟩
      rw [Expression.levels, ready_append]
      constructor
      · exact Expression.ready_levels before roomBefore
      · apply Operand.ready_levels operand
        rw [fills.size_eq]
        omega

theorem Operand.ready_levels
    {groups : Array (Option Formula)}
    {position : Nat} :
    (operand : Operand Word) →
    position + operand.text.length ≤ groups.size →
    Ready groups (operand.levels precedence parameters position)
  | .atom word, _ => trivial
  | .group body, room => by
      rw [Operand.text_group, List.length_cons, List.length_append,
        List.length_singleton] at room
      have roomBody :
          position + 1 + (Expression.text body).length ≤ groups.size := by
        omega
      rcases
          Expression.placed_levels precedence parameters groups (position + 1)
            body roomBody with
        ⟨_, placed⟩
      rw [Operand.levels, ready_append]
      constructor
      · exact Expression.ready_levels body roomBody
      · exact
          ready_singleton
            (Passage.filled_finish ⟨groupSpan position body, body⟩ placed)

end

end

/-- The levels of a text that parses are assembled without a missing group. -/
theorem exists_ready_levels
    {precedence : Precedence}
    {parameters : List String}
    {formula : String}
    {parsed : Formula}
    (accepted : Formula.parse precedence parameters formula = .ok parsed) :
    let text := FormulaText.ofString precedence parameters formula
    ∃ levels,
      text.readLevels text.start = .ok levels ∧
        levels ≠ [] ∧
          Ready (Array.replicate text.characters.size none) levels ∧
            parsed = assemble text.characters.size levels := by
  intro text
  rcases parse_eq_ok_iff.1 accepted with ⟨expression, spelled, known, _⟩
  have read :
      text.readLevels text.start =
        .ok
          (expression.levels precedence parameters 0 ++
            [Passage.finish precedence parameters
              ⟨⟨0, text.characters.size⟩, expression⟩]) :=
    FormulaText.readLevels_start spelled known
  have room := text.room_of_spelled spelled
  rcases
      Expression.placed_levels precedence parameters
        (Array.replicate text.characters.size none) 0 expression room with
    ⟨_, placed⟩
  refine ⟨_, read, ?_, ?_, ?_⟩
  · exact List.append_ne_nil_of_right_ne_nil _ (List.cons_ne_nil _ _)
  · apply (ready_append _ _ _).2
    constructor
    · exact expression.ready_levels room
    · exact
        ready_singleton
          (Passage.filled_finish ⟨⟨0, text.characters.size⟩, expression⟩
            placed)
  · rw [Formula.parse] at accepted
    split at accepted
    · cases accepted
    · simp only at accepted
      rw [read] at accepted
      exact (Except.ok.inj accepted).symm

/-! ## The tokens of a parsed formula -/

/-- The atom that a numeral or a name of a text stands for. -/
def wordAtom (parameters : List String) (word : List Char) : Atom :=
  if (word.head?.any Char.isDigit) = true then
    .literal (Number.ofText word)
  else
    .variable (parameters.idxOf (String.ofList word))

/-- A word stands for the atom of its characters. -/
theorem Word.atom_eq_wordAtom
    (parameters : List String)
    (word : Word) :
    word.atom parameters = wordAtom parameters word.text := by
  cases word with
  | numeral text shape =>
      cases shape with
      | intro digit _ =>
          exact (if_pos digit).symm
  | name text shape =>
      cases shape with
      | intro letter _ _ =>
          have noDigit := isDigit_of_isAlpha letter
          apply Eq.symm
          apply if_neg
          intro digit
          exact Bool.false_ne_true (noDigit.symm.trans digit)

/-- A variable of the formula of a syntax tree is the place of one of its names. -/
theorem Expression.lt_of_mem_formula
    {precedence : Precedence}
    {parameters : List String}
    {expression : Expression}
    {index : Nat}
    (known : expression.Known parameters)
    (member :
      Atom.variable index ∈ (expression.formula precedence parameters).atoms) :
    index < parameters.length := by
  rw [Expression.formula, Chain.atoms_arrange] at member
  rcases List.mem_map.1 member with ⟨word, inWords, place⟩
  cases word with
  | numeral text shape => cases place
  | name text shape =>
      cases place
      apply List.idxOf_lt_length_of_mem
      exact known _ (List.mem_filterMap.2 ⟨_, inWords, rfl⟩)

/--
A parsed formula has the tokens of its text, in order: its reading is that of
the numerals, names and operators of the text, which spell the whole text but
for its brackets.  Every chain in it has one operator fewer than operands,
every variable is the place of a parameter, and no group was missing when it
was assembled.
-/
theorem parse_conserves_tokens
    {precedence : Precedence}
    {parameters : List String}
    {formula : String}
    {parsed : Formula}
    (accepted : Formula.parse precedence parameters formula = .ok parsed) :
    (∀ chain ∈ parsed.inner ++ [parsed],
        chain.operands ≠ [] ∧
          chain.operands.length = chain.operators.length + 1) ∧
      (∀ index, Atom.variable index ∈ parsed.atoms →
        index < parameters.length) ∧
      parsed.reading =
        (lexemes formula.toList).map (Lexeme.map (wordAtom parameters)) ∧
      (lexemes formula.toList).flatMap (Lexeme.spell id) =
        formula.toList.filter isNoBracket ∧
      let text := FormulaText.ofString precedence parameters formula
      ∃ levels,
        text.readLevels text.start = .ok levels ∧
          levels ≠ [] ∧
            Ready (Array.replicate text.characters.size none) levels ∧
              parsed = assemble text.characters.size levels := by
  have assembled := exists_ready_levels accepted
  rcases parse_eq_ok_iff.1 accepted with ⟨expression, spelled, known, rfl⟩
  refine ⟨?_, ?_, ?_, ?_, assembled⟩
  · intro chain _
    have length := chain.length_operands
    refine ⟨?_, length⟩
    intro empty
    rw [empty] at length
    cases length
  · intro index member
    exact Expression.lt_of_mem_formula known member
  · have sameAtoms :
        wordAtom parameters ∘ Word.text = Word.atom parameters :=
      funext fun word => (word.atom_eq_wordAtom parameters).symm
    have composed :
        Lexeme.map (wordAtom parameters) ∘ Lexeme.map Word.text =
          Lexeme.map (Word.atom parameters) := by
      funext lexeme
      rw [Function.comp_apply, Lexeme.map_map, sameAtoms]
    rw [← spelled, expression.lexemes_text, List.map_map, composed,
      Expression.formula, Chain.reading_arrange]
  · rw [← spelled, expression.flatMap_lexemes_text]

/-- A product with a bracketed sum has its five tokens in order, and two parameters as variables. -/
theorem parse_conserves_tokens_product :
    let twenty := Number.finite ⟨false, 20, 0, by decide, by decide⟩
    let parsed : Formula :=
      .link (.single (.atom (.variable 0))) .multiply
        (.group
          (.link (.single (.atom (.variable 1))) .add
            (.atom (.literal twenty))))
    Formula.parse .singleLevel ["a", "b"] "a*(b+20)" = .ok parsed ∧
      parsed.reading =
          [.atom (.variable 0), .operator .multiply, .atom (.variable 1),
            .operator .add, .atom (.literal twenty)] ∧
        ∀ index, Atom.variable index ∈ parsed.atoms → index < 2 := by
  intro twenty parsed
  let letter (name : Char) (isLetter : name.isAlpha = true) : Operand Word :=
    .atom (.name [name] (.letter isLetter))
  let numeral : Operand Word :=
    .atom (.numeral ['2', '0'] (.intro (by decide) (List.all_eq_true.1 rfl)))
  let expression : Expression :=
    .link (.single (letter 'a' (by decide))) .multiply
      (.group (.link (.single (letter 'b' (by decide))) .add numeral))
  have spelled : expression.text = "a*(b+20)".toList := rfl
  have known : expression.Known ["a", "b"] := by
    decide
  have accepted :
      Formula.parse .singleLevel ["a", "b"] "a*(b+20)" = .ok parsed :=
    parse_eq_formula spelled known
  rcases parse_conserves_tokens accepted with ⟨_, bounds, reading, _, _⟩
  refine ⟨accepted, ?_, bounds⟩
  rw [reading, ← spelled, expression.lexemes_text]
  simp only [expression, letter, numeral, Chain.reading_link,
    Chain.reading_single, Operand.reading_group, Operand.reading_atom]
  rfl

end Formulary
