import Formulary.Proofs.Parsing.Assembly

/-!
# Accepted texts are expressions

A reader that comes to the end of its text without a fault has read an
expression in every level.  `Draft.Spells` says which texts a draft may stand
for: the level at hand continues one of them to an expression.  The outer
chains that wait for a draft need no condition of their own, because each of
them ends in an operator and the draft is its last operand.

`parse_eq_ok_iff` joins this with the converse, which says to which formula
the text of a syntax tree parses.
-/

namespace Formulary

/-- The text is that of a syntax tree whose names are parameters. -/
def IsExpression (parameters : List String) (text : List Char) : Prop :=
  ∃ expression : Expression,
    expression.text = text ∧ expression.Known parameters

/-- The text may be what a draft stands for. -/
def Draft.Spells
    {α : Type}
    (parameters : List String)
    (front : List Char) :
    Draft α → Prop
  | .empty => front = []
  | .complete _ => IsExpression parameters front
  | .expecting _ operator =>
      ∃ before, IsExpression parameters before ∧
        front = before ++ [operator.symbol]

namespace Draft.Spells

variable {α : Type} {parameters : List String} {front : List Char}
variable {draft extended : Draft α}

/-- Where an operand may be added, its text continues what the draft stands for. -/
theorem addOperand?
    {added : Operand α}
    {operand : Operand Word}
    (spells : draft.Spells parameters front)
    (enlarged : draft.addOperand? added = some extended)
    (known : operand.Known parameters) :
    extended.Spells parameters (front ++ operand.text) := by
  cases draft with
  | empty =>
      cases enlarged
      subst spells
      exact
        ⟨.single operand, Expression.text_single operand,
          (Expression.known_single _ _).2 known⟩
  | complete chain => cases enlarged
  | expecting chain operator =>
      cases enlarged
      rcases spells with ⟨_, ⟨before, rfl, knownBefore⟩, rfl⟩
      refine
        ⟨.link before operator operand, ?_,
          (Expression.known_link _ _ _ _).2 ⟨knownBefore, known⟩⟩
      rw [Expression.text_link, List.append_assoc]
      rfl

end Draft.Spells

namespace FormulaText

variable {text : FormulaText} {reader reached : Reader}

/-- The groups that were put off are expressions. -/
def Readable (text : FormulaText) (deferred : List Span) : Prop :=
  ∀ span ∈ deferred,
    IsExpression text.parameters (text.slice span.start span.stop)

/-- What one token does: it is the next part of the level, and continues what the draft stands for. -/
structure Passes (text : FormulaText) (reader reached : Reader) : Prop where
  span_eq : reached.level.span = reader.level.span
  deferred_subset : reader.deferred ⊆ reached.deferred
  spells :
    text.Readable reached.deferred →
    ∀ front, reader.level.nest.draft.Spells text.parameters front →
      ∃ token,
        text.left reader.level = token ++ text.left reached.level ∧
          reached.level.nest.draft.Spells text.parameters (front ++ token)

/-! ## Tokens -/

/-- An operand that is read is the next part of the level. -/
theorem passes_of_readOperand
    {added : Operand Slot}
    (operand : Operand Word)
    {rest : List Char}
    (ahead : text.left reader.level = operand.text ++ rest)
    (known : operand.Known text.parameters)
    (read :
      text.readOperand reader added
        (reader.level.cursor + operand.text.length) = .ok reached) :
    text.Passes reader reached := by
  rcases text.readOperand_eq_ok read with ⟨draft, enlarged, rfl⟩
  refine ⟨rfl, fun _ member => member, ?_⟩
  intro _ front spells
  refine ⟨operand.text, ?_, spells.addOperand? enlarged known⟩
  have behind : text.left (reader.advance draft
      (reader.level.cursor + operand.text.length)).level = rest :=
    text.slice_add ahead
  rw [behind, ahead]

theorem passes_of_readNumeral
    {first : Char}
    {rest : List Char}
    (ahead : text.left reader.level = first :: rest)
    (digit : first.isDigit = true)
    (read : text.readNumeral reader = .ok reached) :
    text.Passes reader reached := by
  have shape :
      IsNumeral
        (first :: rest.takeWhile fun character =>
          character.isDigit || character == '.') :=
    .intro digit (List.all_eq_true.1 List.all_takeWhile)
  rw [readNumeral_eq ahead] at read
  apply
    passes_of_readOperand (.atom (.numeral _ shape)) _
      (Operand.known_numeral _ _ shape) read
  · exact
      rest.dropWhile fun character => character.isDigit || character == '.'
  · rw [ahead, Operand.text_atom, Word.text, List.cons_append,
      List.takeWhile_append_dropWhile]

theorem passes_of_readName
    {first : Char}
    {rest : List Char}
    (ahead : text.left reader.level = first :: rest)
    (letter : first.isAlpha = true)
    (read : text.readName reader = .ok reached) :
    text.Passes reader reached := by
  have shape :
      IsName
        (first ::
          (rest.takeWhile Char.isAlpha ++
            (rest.dropWhile Char.isAlpha).takeWhile Char.isDigit)) :=
    .intro letter (List.all_eq_true.1 List.all_takeWhile)
      (List.all_eq_true.1 List.all_takeWhile)
  rw [readName_eq ahead] at read
  simp only at read
  split at read
  · cases read
  · rename_i index found
    have member :
        String.ofList
            (first ::
              (rest.takeWhile Char.isAlpha ++
                (rest.dropWhile Char.isAlpha).takeWhile Char.isDigit)) ∈
          text.parameters := by
      rw [← List.isSome_idxOf?, found]
      rfl
    apply
      passes_of_readOperand (.atom (.name _ shape)) _
        ((Operand.known_name _ _ shape).2 member) read
    · exact (rest.dropWhile Char.isAlpha).dropWhile Char.isDigit
    · rw [ahead, Operand.text_atom, Word.text, List.cons_append,
        List.append_assoc, List.takeWhile_append_dropWhile,
        List.takeWhile_append_dropWhile]

/-- The bracket that closes a group stands behind it. -/
theorem slice_of_closing
    {position closing stop : Nat}
    {rest : List Char}
    (ahead : text.slice position stop = '(' :: rest)
    (found : (text.closings[position]?).join = some closing)
    (inside : closing < stop) :
    rest =
      text.slice (position + 1) closing ++
        ')' :: text.slice (closing + 1) stop := by
  rw [closing_eq ahead] at found
  rcases Option.map_eq_some_iff.1 found with ⟨distance, counted, rfl⟩
  have bracket := getElem?_of_closingDistance counted
  rw [List.getElem?_drop, ← getElem?_characters] at bracket
  rw [← slice_of_getElem? text inside bracket,
    text.slice_append (by omega) (Nat.le_of_lt inside), slice_succ ahead]

theorem passes_of_readGroup
    {rest : List Char}
    (ahead : text.left reader.level = '(' :: rest)
    (read : text.readGroup reader = .ok reached) :
    text.Passes reader reached := by
  rcases text.readGroup_eq_ok read with
    ⟨closing, draft, found, _, inside, enlarged, rfl⟩
  have split := slice_of_closing ahead found inside
  refine ⟨rfl, List.subset_cons_self _ _, ?_⟩
  intro readable front spells
  rcases readable _ List.mem_cons_self with ⟨body, spelled, known⟩
  refine
    ⟨Operand.text (.group body), ?_,
      spells.addOperand? enlarged ((Operand.known_group _ _).2 known)⟩
  rw [ahead, split, Operand.text_group, spelled, List.cons_append,
    List.append_assoc]
  rfl

theorem passes_of_readOperator
    {operator : Operator}
    {moved : Bool}
    {rest : List Char}
    (ahead : text.left reader.level = operator.symbol :: rest)
    (read : text.readOperator reader operator = .ok (reached, moved)) :
    text.Passes reader reached := by
  simp only [readOperator] at read
  split at read
  · rename_i chain complete
    cases read
    refine ⟨rfl, fun _ member => member, ?_⟩
    intro _ front spells
    rw [complete] at spells
    refine ⟨[operator.symbol], ?_, front, spells, rfl⟩
    have behind := slice_succ ahead
    rw [ahead, List.singleton_append, ← behind]
    rfl
  · cases read

/-- A token that is read is the next part of the level. -/
theorem passes_of_readToken
    {character : Char}
    {moved : Bool}
    {rest : List Char}
    (ahead : text.left reader.level = character :: rest)
    (read : text.readToken reader character = .ok (reached, moved)) :
    text.Passes reader reached := by
  rcases text.readToken_eq_ok read with
    ⟨digit, numeral⟩ | ⟨letter, name⟩ | ⟨rfl, group⟩ |
      ⟨operator, found, attached⟩
  · exact passes_of_readNumeral ahead digit numeral
  · exact passes_of_readName ahead letter name
  · exact passes_of_readGroup ahead group
  · rw [← Operator.symbol_of_ofChar? found] at ahead
    exact passes_of_readOperator ahead attached

/-! ## Levels -/

/-- Behind the end of a level the groups put off are still to be read. -/
theorem readable_of_finishChain
    {chain : Sketch}
    {finished : List FinishedLevel}
    {progress : Progress}
    (continued : finishChain reader chain finished = .continuing progress)
    (goesOn :
      (∀ front,
        progress.reader.level.nest.draft.Spells text.parameters front →
          IsExpression text.parameters
            (front ++ text.left progress.reader.level)) ∧
        text.Readable progress.reader.deferred) :
    text.Readable reader.deferred := by
  simp only [finishChain] at continued
  split at continued
  · cases continued
    exact goesOn.2
  · split at continued
    · rename_i span deferred waiting
      cases continued
      rw [waiting]
      intro other member
      rcases List.mem_cons.1 member with rfl | later
      · exact goesOn.1 [] rfl
      · exact goesOn.2 other later
    · cases continued

/-- Nothing is put off when the last level ends. -/
theorem deferred_of_finishChain
    {chain : Sketch}
    {finished levels : List FinishedLevel}
    (stopped : finishChain reader chain finished = .finished levels) :
    reader.deferred = [] := by
  simp only [finishChain] at stopped
  split at stopped
  · cases stopped
  · split at stopped
    · cases stopped
    · assumption

/--
Where the loop comes to its end, the level at hand continues what its draft
stands for to an expression, and so do the groups put off.
-/
theorem isExpression_of_readLevels
    {reader : Reader}
    {finished levels : List FinishedLevel}
    (read : text.readLevels ⟨reader, finished⟩ = .ok levels) :
    (∀ front, reader.level.nest.draft.Spells text.parameters front →
      IsExpression text.parameters (front ++ text.left reader.level)) ∧
      text.Readable reader.deferred := by
  induction work : reader.weight using Nat.strongRecOn generalizing reader finished with
  | ind work hypothesis =>
      subst work
      cases ahead : text.left reader.level with
      | cons character rest =>
          have found : text.nextCharacter? reader.level = some character := by
            rw [nextCharacter?_eq, ahead, List.head?_cons]
          rw [text.readLevels_of_token found] at read
          split at read
          · cases read
          · rename_i reached moved token
            have lighter :=
              text.readToken_weight token (text.cursor_lt_of_nextCharacter? found)
            have passes := passes_of_readToken ahead token
            rcases hypothesis _ lighter read rfl with ⟨continues, readable⟩
            constructor
            · intro front spells
              rcases passes.spells readable front spells with ⟨word, split, behind⟩
              rw [← ahead, split, ← List.append_assoc]
              exact continues _ behind
            · intro span member
              exact readable span (passes.deferred_subset member)
      | nil =>
          have ended : text.nextCharacter? reader.level = none := by
            rw [nextCharacter?_eq, ahead, List.head?_nil]
          rw [text.readLevels_of_end ended] at read
          split at read
          · cases read
          · rename_i chain completed
            constructor
            · intro front spells
              rw [List.append_nil]
              unfold completeChain at completed
              split at completed
              · rename_i draft
                rw [draft] at spells
                exact spells
              · cases completed
              · cases completed
            · split at read
              · rename_i reached continued
                have goesOn := hypothesis _ (finishChain_weight continued) read rfl
                exact readable_of_finishChain continued goesOn
              · rename_i stopped
                rw [deferred_of_finishChain stopped]
                intro span member
                exact absurd member List.not_mem_nil

end FormulaText

/-! ## The accepted texts -/

/-- A text that parses is the text of a syntax tree whose names are parameters. -/
theorem isExpression_of_parse
    {precedence : Precedence}
    {parameters : List String}
    {formula : String}
    {parsed : Formula}
    (accepted : Formula.parse precedence parameters formula = .ok parsed) :
    IsExpression parameters formula.toList := by
  rw [Formula.parse] at accepted
  split at accepted
  · cases accepted
  · simp only at accepted
    split at accepted
    · cases accepted
    · rename_i levels read
      rcases FormulaText.isExpression_of_readLevels read with ⟨continues, _⟩
      have all :
          (FormulaText.ofString precedence parameters formula).slice 0
              (FormulaText.ofString precedence parameters formula).characters.size =
            formula.toList :=
        FormulaText.slice_all _
      rw [← all]
      exact continues [] rfl

/-- The texts that parse are those of syntax trees whose names are parameters. -/
theorem parse_eq_ok_iff
    {precedence : Precedence}
    {parameters : List String}
    {formula : String}
    {parsed : Formula} :
    Formula.parse precedence parameters formula = .ok parsed ↔
      ∃ expression : Expression,
        expression.text = formula.toList ∧
          expression.Known parameters ∧
            parsed = expression.formula precedence parameters := by
  constructor
  · intro accepted
    rcases isExpression_of_parse accepted with ⟨expression, spelled, known⟩
    rw [parse_eq_formula spelled known, Except.ok.injEq] at accepted
    exact ⟨expression, spelled, known, accepted.symm⟩
  · rintro ⟨expression, spelled, known, rfl⟩
    exact parse_eq_formula spelled known

/--
The parser accepts exactly its grammar, in both precedence modes: the texts
derivable as expressions in which every name is a parameter.
-/
theorem parse_isOk_iff_derivesExpression
    (precedence : Precedence)
    (parameters : List String)
    (formula : String) :
    (∃ parsed, Formula.parse precedence parameters formula = .ok parsed) ↔
      ∃ names, DerivesExpression formula.toList names ∧
        ∀ name ∈ names, name ∈ parameters := by
  constructor
  · rintro ⟨parsed, accepted⟩
    rcases isExpression_of_parse accepted with ⟨expression, spelled, known⟩
    exact
      ⟨expression.names,
        (derivesExpression_iff _ _).2 ⟨expression, spelled, rfl⟩, known⟩
  · rintro ⟨names, derived, members⟩
    rcases (derivesExpression_iff _ _).1 derived with ⟨expression, spelled, rfl⟩
    exact ⟨_, parse_eq_formula spelled members⟩

end Formulary
