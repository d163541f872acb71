import Formulary.Proofs.Parsing.Completeness

/-!
# Assembling a formula

The groups of a level are read before the groups that were put off earlier,
so the levels of a syntax tree are finished in the order of the tree:
`Expression.levels` lists those of its groups by recursion.  Assembly goes
through that list with a table of formulas.  Behind the levels of a tree the
table holds the formulas of its groups, and is unchanged outside of its text.

`parse_eq_formula` puts the parts together: the text of a syntax tree whose
names are parameters parses to the formula that the tree stands for.
-/

namespace Formulary

/-! ## The finished levels of a syntax tree -/

mutual

/-- The finished levels of the groups of a syntax tree, the one finished last in front. -/
def Expression.levels
    (precedence : Precedence)
    (parameters : List String)
    (start : Nat) :
    Expression → List FinishedLevel
  | .single operand => operand.levels precedence parameters start
  | .link before _ operand =>
      Expression.levels precedence parameters start before ++
        operand.levels precedence parameters
          (start + (Expression.text before).length + 1)

/-- The finished levels of a group and of the groups in it. -/
def Operand.levels
    (precedence : Precedence)
    (parameters : List String)
    (position : Nat) :
    Operand Word → List FinishedLevel
  | .atom _ => []
  | .group body =>
      Expression.levels precedence parameters (position + 1) body ++
        [Passage.finish precedence parameters ⟨groupSpan position body, body⟩]

end

namespace FormulaText

variable {text : FormulaText} {stop : Nat}

mutual

/-- The groups of a syntax tree are read before the other groups put off. -/
theorem readDeferred_expression
    {position : Nat}
    {rest : List Char}
    (expression : Expression)
    (ahead : text.slice position stop = expression.text ++ rest)
    (known : expression.Known text.parameters)
    (deferred : List Span)
    (finished : List FinishedLevel) :
    text.readDeferred
        (spansOf (expression.passages position) ++ deferred) finished =
      text.readDeferred deferred
        (expression.levels text.precedence text.parameters position ++
          finished) := by
  match expression with
  | .single operand =>
      rw [Expression.text_single] at ahead
      exact
        readDeferred_operand operand ahead
          ((Expression.known_single _ _).1 known) deferred finished
  | .link before operator operand =>
      rcases
          (Expression.known_link _ _ _ _).1 known with
        ⟨knownBefore, knownOperand⟩
      rw [Expression.text_link, List.append_assoc, List.cons_append] at ahead
      have aheadOperand := slice_succ (text.slice_add ahead)
      rw [Expression.passages, spansOf_append, List.append_assoc,
        readDeferred_operand operand aheadOperand knownOperand,
        readDeferred_expression before ahead knownBefore,
        Expression.levels, List.append_assoc]

/-- A group is read, with the groups in it, before the other groups put off. -/
theorem readDeferred_operand
    {position : Nat}
    {rest : List Char}
    (operand : Operand Word)
    (ahead : text.slice position stop = operand.text ++ rest)
    (known : operand.Known text.parameters)
    (deferred : List Span)
    (finished : List FinishedLevel) :
    text.readDeferred
        (spansOf (operand.passages position) ++ deferred) finished =
      text.readDeferred deferred
        (operand.levels text.precedence text.parameters position ++
          finished) := by
  match operand with
  | .atom word => rfl
  | .group body =>
      have knownBody := (Operand.known_group _ _).1 known
      rw [Operand.text_group, List.cons_append, List.append_assoc] at ahead
      have inside := slice_succ ahead
      have filled :
          text.slice (groupSpan position body).start
              (groupSpan position body).stop =
            Expression.text body :=
        text.slice_front inside
      have level :
          text.readDeferred
              (spansOf (Operand.passages position (.group body)) ++ deferred)
              finished =
            text.readLevels
              ⟨⟨Level.begin (groupSpan position body), deferred⟩, finished⟩ :=
        rfl
      rw [level, readLevels_passage ⟨groupSpan position body, body⟩ filled
          knownBody, Operand.levels, List.append_assoc]
      exact readDeferred_expression body inside knownBody deferred _

end

end FormulaText

/-! ## The table of formulas -/

/-- The table with the formula of one more level. -/
def recordLevel
    (groups : Array (Option Formula))
    (level : FinishedLevel) :
    Array (Option Formula) :=
  groups.setIfInBounds level.span.start
    (some (level.sketch.substitute (fillSlot groups)))

theorem assembleOnto_append
    (groups : Array (Option Formula))
    (levels : List FinishedLevel)
    (last : FinishedLevel) :
    assembleOnto groups (levels ++ [last]) =
      last.sketch.substitute (fillSlot (levels.foldl recordLevel groups)) := by
  induction levels generalizing groups with
  | nil => rfl
  | cons level levels hypothesis =>
      rw [List.cons_append, assembleOnto, hypothesis]
      · rfl
      · simp

/-- The table holds the formulas of the groups of a syntax tree. -/
def Expression.Placed
    (precedence : Precedence)
    (parameters : List String)
    (groups : Array (Option Formula))
    (start : Nat)
    (expression : Expression) :
    Prop :=
  ∀ passage ∈ expression.passages start,
    groups[passage.span.start]? =
      some (some (passage.expression.formula precedence parameters))

/-- Groups stand inside of the text of a syntax tree. -/
theorem Operand.start_of_mem_passages
    {position : Nat}
    {operand : Operand Word}
    {passage : Passage}
    (member : passage ∈ operand.passages position) :
    position ≤ passage.span.start ∧
      passage.span.start < position + operand.text.length := by
  cases operand with
  | atom word => simp [Operand.passages] at member
  | group body =>
      rw [Operand.passages, List.mem_singleton] at member
      subst member
      simp only [groupSpan, Operand.text_group, List.length_cons,
        List.length_append]
      omega

theorem Expression.start_of_mem_passages
    {start : Nat}
    {passage : Passage} :
    {expression : Expression} →
    passage ∈ expression.passages start →
      start ≤ passage.span.start ∧
        passage.span.start < start + expression.text.length
  | .single operand, member => by
      rw [Expression.text_single]
      exact Operand.start_of_mem_passages member
  | .link before operator operand, member => by
      rw [Expression.text_link, List.length_append, List.length_cons]
      rw [Expression.passages, List.mem_append] at member
      rcases member with inBefore | inOperand
      · have bounds := Expression.start_of_mem_passages inBefore
        omega
      · have bounds := Operand.start_of_mem_passages inOperand
        omega

section

variable {precedence : Precedence} {parameters : List String}
variable {groups : Array (Option Formula)}

/-- An operand whose group is in the table is filled with its formula. -/
theorem Operand.substitute_slot
    {position : Nat}
    {operand : Operand Word}
    (placed :
      ∀ passage ∈ operand.passages position,
        groups[passage.span.start]? =
          some (some (passage.expression.formula precedence parameters))) :
    (operand.slot parameters position).substitute (fillSlot groups) =
      operand.formula precedence parameters := by
  cases operand with
  | atom word =>
      rw [Operand.slot, Operand.substitute_atom, Operand.formula,
        Operand.arrange]
      rfl
  | group body =>
      have entry := placed ⟨groupSpan position body, body⟩ (List.mem_singleton_self _)
      rw [Operand.slot, Operand.substitute_atom, fillSlot, entry,
        Operand.formula, Operand.arrange]
      rfl

/-- With the table of its groups, the site of a level is that of the formula. -/
theorem Expression.substitute_siteAt
    {start : Nat} :
    {expression : Expression} →
    expression.Placed precedence parameters groups start →
    (expression.siteAt precedence parameters start).substitute
        (fillSlot groups) =
      expression.site precedence (Word.atom parameters)
  | .single operand, placed => by
      rw [Expression.siteAt, Site.substitute, Chain.substitute_single,
        Operand.substitute_slot placed, Chain.site]
      rfl
  | .link before operator operand, placed => by
      have placedBefore :
          Expression.Placed precedence parameters groups start before := by
        intro passage member
        exact placed passage (List.mem_append_left _ member)
      have placedOperand :
          ∀ passage ∈ operand.passages (start + (Expression.text before).length + 1),
            groups[passage.span.start]? =
              some (some (passage.expression.formula precedence parameters)) := by
        intro passage member
        exact placed passage (List.mem_append_right _ member)
      rw [Expression.siteAt, ← Site.extend_substitute,
        Expression.substitute_siteAt placedBefore,
        Operand.substitute_slot placedOperand, Chain.site, Operand.formula]

/-- With the table of its groups, a level is assembled to the formula of its syntax tree. -/
theorem Passage.substitute_finish
    (passage : Passage)
    (placed :
      passage.expression.Placed precedence parameters groups
        passage.span.start) :
    (passage.finish precedence parameters).sketch.substitute
        (fillSlot groups) =
      passage.expression.formula precedence parameters := by
  rw [Passage.finish, ← Site.close_substitute,
    Expression.substitute_siteAt placed, Expression.formula, Chain.arrange]

end

/-- What a part of the text from a start to a stop does to a table: nothing outside of the part. -/
structure Fills
    (groups filled : Array (Option Formula))
    (start stop : Nat) :
    Prop where
  size_eq : filled.size = groups.size
  outside :
    ∀ index, index < start ∨ stop ≤ index → filled[index]? = groups[index]?

namespace Fills

variable {groups middle filled : Array (Option Formula)}
variable {start stop : Nat}

theorem refl : Fills groups groups start stop :=
  ⟨rfl, fun _ _ => rfl⟩

theorem trans
    (first : Fills groups middle start stop)
    (second : Fills middle filled start stop) :
    Fills groups filled start stop := by
  constructor
  · exact second.size_eq.trans first.size_eq
  · intro index beyond
    exact (second.outside index beyond).trans (first.outside index beyond)

theorem widen
    (fills : Fills groups filled start stop)
    {before behind : Nat}
    (atStart : before ≤ start)
    (atStop : stop ≤ behind) :
    Fills groups filled before behind := by
  constructor
  · exact fills.size_eq
  · intro index beyond
    exact fills.outside index (by omega)

end Fills

section

variable (precedence : Precedence) (parameters : List String)

mutual

/-- Behind the levels of a syntax tree the table holds the formulas of its groups. -/
theorem Expression.placed_levels
    (groups : Array (Option Formula))
    (start : Nat)
    (expression : Expression)
    (room : start + expression.text.length ≤ groups.size) :
    let filled :=
      (expression.levels precedence parameters start).foldl recordLevel groups
    Fills groups filled start (start + expression.text.length) ∧
      expression.Placed precedence parameters filled start := by
  match expression with
  | .single operand =>
      rw [Expression.text_single] at room ⊢
      exact Operand.placed_levels groups start operand room
  | .link before operator operand =>
      rw [Expression.text_link, List.length_append, List.length_cons] at room
      rw [Expression.text_link, List.length_append, List.length_cons,
        Expression.levels, List.foldl_append]
      rcases
          Expression.placed_levels groups start before (by omega) with
        ⟨fillsBefore, placedBefore⟩
      rcases
          Operand.placed_levels
            ((Expression.levels precedence parameters start before).foldl
              recordLevel groups)
            (start + (Expression.text before).length + 1) operand
            (by rw [fillsBefore.size_eq]; omega) with
        ⟨fillsOperand, placedOperand⟩
      constructor
      · exact
          (fillsBefore.widen (Nat.le_refl _) (by omega)).trans
            (fillsOperand.widen (by omega) (by omega))
      · intro passage member
        rcases List.mem_append.1 member with inBefore | inOperand
        · have bounds := Expression.start_of_mem_passages inBefore
          rw [fillsOperand.outside _ (Or.inl (by omega))]
          exact placedBefore passage inBefore
        · exact placedOperand passage inOperand

/-- Behind the levels of an operand the table holds the formula of its group. -/
theorem Operand.placed_levels
    (groups : Array (Option Formula))
    (position : Nat)
    (operand : Operand Word)
    (room : position + operand.text.length ≤ groups.size) :
    let filled :=
      (operand.levels precedence parameters position).foldl recordLevel groups
    Fills groups filled position (position + operand.text.length) ∧
      ∀ passage ∈ operand.passages position,
        filled[passage.span.start]? =
          some (some (passage.expression.formula precedence parameters)) := by
  match operand with
  | .atom word =>
      constructor
      · exact Fills.refl
      · intro passage member
        simp [Operand.passages] at member
  | .group body =>
      rw [Operand.text_group, List.length_cons, List.length_append,
        List.length_singleton] at room
      rw [Operand.text_group, List.length_cons, List.length_append,
        List.length_singleton, Operand.levels, List.foldl_append]
      rcases
          Expression.placed_levels groups (position + 1) body (by omega) with
        ⟨fillsBody, placedBody⟩
      have formula :=
        Passage.substitute_finish ⟨groupSpan position body, body⟩ placedBody
      rw [List.foldl_cons, List.foldl_nil, recordLevel, formula]
      constructor
      · apply (fillsBody.widen (Nat.le_succ position) (by omega)).trans
        constructor
        · exact Array.size_setIfInBounds
        · intro index beyond
          apply Array.getElem?_setIfInBounds_ne
          show position + 1 ≠ index
          omega
      · intro passage member
        rw [Operand.passages, List.mem_singleton] at member
        subst member
        apply Array.getElem?_setIfInBounds_self_of_lt
        rw [fillsBody.size_eq]
        show position + 1 < groups.size
        omega

end

end

/-! ## Parsing the text of a syntax tree -/

/-- The levels that a text is read to, if it is the text of a syntax tree. -/
theorem FormulaText.readLevels_start
    {text : FormulaText}
    {expression : Expression}
    (spelled : expression.text = text.formula.toList)
    (known : expression.Known text.parameters) :
    text.readLevels text.start =
      .ok
        (expression.levels text.precedence text.parameters 0 ++
          [Passage.finish text.precedence text.parameters
            ⟨⟨0, text.characters.size⟩, expression⟩]) := by
  have filled : text.slice 0 text.characters.size = expression.text := by
    rw [text.slice_all, spelled]
  have ahead := filled
  rw [← List.append_nil expression.text] at ahead
  have whole :
      text.readLevels text.start =
        text.readDeferred (spansOf (expression.passages 0) ++ [])
          [Passage.finish text.precedence text.parameters
            ⟨⟨0, text.characters.size⟩, expression⟩] :=
    readLevels_passage ⟨⟨0, text.characters.size⟩, expression⟩ filled known
  rw [whole, readDeferred_expression expression ahead known]
  rfl

/-- There is an entry for the group that opens at any position of the text. -/
theorem FormulaText.room_of_spelled
    (text : FormulaText)
    {expression : Expression}
    (spelled : expression.text = text.formula.toList) :
    0 + expression.text.length ≤
      (Array.replicate text.characters.size (none : Option Formula)).size := by
  apply Nat.le_of_eq
  rw [Array.size_replicate, text.size_characters, Nat.zero_add, spelled]

/-- The text of a syntax tree whose names are parameters parses to its formula. -/
theorem parse_eq_formula
    {precedence : Precedence}
    {parameters : List String}
    {formula : String}
    {expression : Expression}
    (spelled : expression.text = formula.toList)
    (known : expression.Known parameters) :
    Formula.parse precedence parameters formula =
      .ok (expression.formula precedence parameters) := by
  let text := FormulaText.ofString precedence parameters formula
  have nonempty : ¬formula.isEmpty = true := by
    rw [String.isEmpty_iff]
    rintro rfl
    exact expression.text_ne_nil spelled
  have read :
      text.readLevels text.start =
        .ok
          (expression.levels precedence parameters 0 ++
            [Passage.finish precedence parameters
              ⟨⟨0, text.characters.size⟩, expression⟩]) :=
    FormulaText.readLevels_start spelled known
  rcases
      Expression.placed_levels precedence parameters
        (Array.replicate text.characters.size none) 0 expression
        (text.room_of_spelled spelled) with
    ⟨_, placed⟩
  rw [Formula.parse, if_neg nonempty]
  simp only
  rw [read]
  simp only [Except.ok.injEq]
  rw [assemble, assembleOnto_append]
  exact Passage.substitute_finish ⟨⟨0, text.characters.size⟩, expression⟩ placed

end Formulary
