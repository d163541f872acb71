import Formulary.Proofs.Parsing.Bounds

/-!
# What the errors of a text point at

An error names the formula and one of its levels: the whole text, or what
stands between two brackets of it that belong together.  Its position is that
of a character of the level, and the character is the one that the error is
about.  `PointsAt` has one constructor for each kind of error.

The tokens of a level are the ones that `LevelToken.first` finds from one
position to the next: `TokenAt`.  A level between two brackets is balanced, so
none of its tokens is a bracket by itself, and errors about such a bracket are
about the whole text.
-/

namespace Formulary

/-! ## Texts between brackets -/

/-- The bracket behind a text closes the one in front of it. -/
def ClosedBy (behind level : List Char) : Prop :=
  closingDistance 0 (level ++ ')' :: behind) = some level.length

section

variable {front level behind : List Char}

/-- What follows behind the closing bracket makes no difference. -/
theorem ClosedBy.append
    (closed : ClosedBy behind level)
    (after : List Char) :
    ClosedBy (behind ++ after) level := by
  rcases (closingDistance_eq_some_iff_append after).1 closed with ⟨found, _⟩
  rw [List.append_assoc, List.cons_append] at found
  exact found

/-- The pass over the brackets of a text notes the bracket behind a level for the one in front. -/
theorem ClosedBy.closingPositions_getElem?
    (closed : ClosedBy behind level)
    (front : List Char) :
    (closingPositions (front ++ '(' :: (level ++ ')' :: behind)))[front.length]? =
      some (some (front.length + 1 + level.length)) := by
  have opening :
      (front ++ '(' :: (level ++ ')' :: behind))[front.length]? = some '(' := by
    rw [List.getElem?_append_right (Nat.le_refl _), Nat.sub_self,
      List.getElem?_cons_zero]
  rw [Formulary.closingPositions_getElem? opening, ← List.drop_drop,
    List.drop_left, List.drop_succ_cons, List.drop_zero, closed,
    Option.map_some]

/-- Behind balanced text the closing bracket is the same one. -/
theorem ClosedBy.of_append
    (closed : ClosedBy behind (front ++ level))
    (balanced :
      closingDistance 0 (front ++ (level ++ ')' :: behind)) =
        (closingDistance 0 (level ++ ')' :: behind)).map (· + front.length)) :
    ClosedBy behind level := by
  rw [ClosedBy, List.append_assoc, balanced, List.length_append] at closed
  rcases Option.map_eq_some_iff.1 closed with ⟨distance, found, same⟩
  rw [ClosedBy, found, Option.some.injEq]
  omega

/-- A group is balanced. -/
theorem ClosedBy.closingDistance_group
    (closed : ClosedBy behind level) :
    closingDistance 0 ((LevelToken.group level).text ++ behind) =
      (closingDistance 0 behind).map
        (· + (LevelToken.group level).text.length) := by
  rw [LevelToken.text, List.cons_append, List.append_assoc,
    List.singleton_append, closingDistance, closingDistance_add, closed,
    Option.bind_some, Option.map_map, List.length_cons, List.length_append,
    List.length_singleton, ← List.drop_drop, List.drop_left,
    List.drop_succ_cons, List.drop_zero]
  rfl

/-- An opening bracket without a closing one takes the bracket that stands behind the text. -/
theorem not_closedBy_of_unmatched
    {rest : List Char}
    (unmatched : closingDistance 0 rest = none)
    (behind : List Char) :
    ¬ClosedBy behind ('(' :: rest) := by
  intro closed
  rw [ClosedBy, List.cons_append] at closed
  -- Its own closing bracket would come before the one behind the text.
  rcases exists_of_closingDistance_opening closed with ⟨distance, found, short⟩
  rw [(closingDistance_eq_some_iff_append _).2
    ⟨found, Nat.lt_of_succ_lt_succ short⟩] at unmatched
  cases unmatched

end

/-! ## First tokens -/

/-- The character is the first one of a numeral, a name, a group or an operator, or a bracket. -/
def beginsToken (character : Char) : Bool :=
  character.isDigit || character.isAlpha ||
    character == '(' || character == ')' ||
    (Operator.ofChar? character).isSome

namespace LevelToken

/-- The token is a bracket by itself. -/
def isBracket : LevelToken → Bool
  | .opening => true
  | .closing => true
  | _ => false

/-- The kinds of tokens that a character begins in front of a text. -/
inductive Begins (character : Char) (rest : List Char) : LevelToken → Prop where
  | word
      (written : Word)
      {behind : List Char}
      (spelled : character :: rest = written.text ++ behind) :
      Begins character rest (.word written)
  | group
      {body behind : List Char}
      (opens : character = '(')
      (closes : rest = body ++ ')' :: behind)
      (closed : ClosedBy behind body) :
      Begins character rest (.group body)
  | opening
      (opens : character = '(')
      (unmatched : closingDistance 0 rest = none) :
      Begins character rest .opening
  | closing
      (closes : character = ')') :
      Begins character rest .closing
  | symbol
      (operator : Operator)
      (same : character = operator.symbol) :
      Begins character rest (.symbol operator)
  | other
      (noToken : beginsToken character = false) :
      Begins character rest (.other character)

/-- The first token is of one of these kinds. -/
theorem begins_first
    (character : Char)
    (rest : List Char) :
    Begins character rest (first character rest) := by
  by_cases digit : character.isDigit = true
  · rcases first_of_isDigit rest digit with ⟨shape, same⟩
    have spelled := text_first_append character rest
    rw [same] at spelled ⊢
    exact .word _ spelled.symm
  · by_cases letter : character.isAlpha = true
    · rcases first_of_isAlpha rest digit letter with ⟨shape, same⟩
      have spelled := text_first_append character rest
      rw [same] at spelled ⊢
      exact .word _ spelled.symm
    · rw [first_of_noWord rest digit letter, ofCharacter]
      by_cases opens : character = '('
      · rw [if_pos opens]
        cases counted : closingDistance 0 rest with
        | none => exact .opening opens counted
        | some distance =>
            have bracket := getElem?_of_closingDistance counted
            rcases List.getElem?_eq_some_iff.1 bracket with ⟨inside, closes⟩
            have whole :
                rest =
                  rest.take distance ++ ')' :: rest.drop (distance + 1) := by
              rw [← closes, ← List.drop_eq_getElem_cons inside,
                List.take_append_drop]
            apply Begins.group opens whole
            rw [ClosedBy, ← whole, counted, List.length_take,
              Nat.min_eq_left (Nat.le_of_lt inside)]
      · rw [if_neg opens]
        by_cases closes : character = ')'
        · rw [if_pos closes]
          exact .closing closes
        · rw [if_neg closes]
          cases found : Operator.ofChar? character with
          | some operator =>
              exact .symbol operator (Operator.symbol_of_ofChar? found).symm
          | none =>
              apply Begins.other
              simp only [beginsToken, found, Option.isSome_none,
                Bool.or_false, Bool.or_eq_false_iff, beq_eq_false_iff_ne]
              exact
                ⟨⟨⟨Bool.eq_false_iff.2 digit, Bool.eq_false_iff.2 letter⟩,
                    opens⟩, closes⟩

end LevelToken

/-! ## Tokens at positions -/

/-- A token of a level begins at a position. -/
def TokenAt (level : List Char) (position : Nat) (token : LevelToken) : Prop :=
  ∃ before behind,
    levelTokens level = before ++ token :: behind ∧
      (before.flatMap LevelToken.text).length = position

theorem TokenAt.mem
    {level : List Char}
    {position : Nat}
    {token : LevelToken}
    (stands : TokenAt level position token) :
    token ∈ levelTokens level := by
  rcases stands with ⟨before, behind, split, _⟩
  rw [split]
  exact List.mem_append_right _ List.mem_cons_self

/-- The token at a position is the first one of the text from there on. -/
theorem TokenAt.exists_first
    {level : List Char}
    {position : Nat}
    {token : LevelToken}
    (stands : TokenAt level position token) :
    ∃ character rest,
      level.drop position = character :: rest ∧
        LevelToken.first character rest = token := by
  rcases stands with ⟨before, behind, split, rfl⟩
  induction before generalizing level with
  | nil =>
      cases level with
      | nil =>
          rw [levelTokens_nil] at split
          cases split
      | cons character rest =>
          rw [levelTokens_cons] at split
          exact ⟨character, rest, rfl, (List.cons.inj split).1⟩
  | cons earlier before hypothesis =>
      cases level with
      | nil =>
          rw [levelTokens_nil] at split
          cases split
      | cons character rest =>
          rw [levelTokens_cons] at split
          rcases List.cons.inj split with ⟨rfl, others⟩
          rw [List.flatMap_cons, List.length_append, ← List.drop_drop]
          exact hypothesis others

/-- The first character of a token stands at its position. -/
theorem TokenAt.exists_begins
    {level : List Char}
    {position : Nat}
    {token : LevelToken}
    (stands : TokenAt level position token) :
    ∃ character rest,
      level.drop position = character :: rest ∧
        level[position]? = some character ∧
          LevelToken.Begins character rest token := by
  rcases stands.exists_first with ⟨character, rest, ahead, rfl⟩
  refine ⟨character, rest, ahead, ?_, LevelToken.begins_first character rest⟩
  rw [← List.head?_drop, ahead, List.head?_cons]

/-- The group between whose brackets a text stands begins at some position. -/
theorem exists_tokenAt_of_mem_groupBodies
    {level body : List Char}
    (member : body ∈ groupBodies level) :
    ∃ position, TokenAt level position (.group body) := by
  rcases List.mem_filterMap.1 member with ⟨token, inLevel, isBody⟩
  rcases List.append_of_mem inLevel with ⟨before, behind, split⟩
  cases token with
  | group inside =>
      cases isBody
      exact ⟨_, before, behind, split, rfl⟩
  | _ => cases isBody

/-! ## Levels of a text -/

/-- The whole text, or what stands between two brackets of it that belong together. -/
inductive IsLevel (text : List Char) : (level : List Char) → Prop where
  | whole : IsLevel text text
  | group
      {front level behind : List Char}
      (split : text = front ++ '(' :: (level ++ ')' :: behind))
      (closed : ClosedBy behind level) :
      IsLevel text level

/-- A group of a level is a level of the same text. -/
theorem IsLevel.of_group
    {text level body : List Char}
    {position : Nat}
    (isLevel : IsLevel text level)
    (stands : TokenAt level position (.group body)) :
    IsLevel text body := by
  rcases stands.exists_begins with ⟨character, rest, ahead, _, begins⟩
  cases begins with
  | group opens closes closed =>
      subst opens
      have spelled := List.take_append_drop position level
      rw [ahead, closes] at spelled
      cases isLevel with
      | whole => exact .group spelled.symm closed
      | @group front _ after split _ =>
          -- Both brackets of the group stand between those of the level.
          rw [← spelled, List.append_assoc, List.cons_append,
            List.append_assoc, List.cons_append, ← List.cons_append,
            ← List.append_assoc] at split
          exact .group split (closed.append _)

/-- The first token of closed text is no bracket by itself, and the text behind it is closed. -/
theorem ClosedBy.first
    {character : Char}
    {rest behind : List Char}
    (closed : ClosedBy behind (character :: rest)) :
    (LevelToken.first character rest).isBracket = false ∧
      ClosedBy behind
        ((character :: rest).drop
          (LevelToken.first character rest).text.length) := by
  have begins := LevelToken.begins_first character rest
  have spelled := LevelToken.text_first_append character rest
  generalize LevelToken.first character rest = token at begins spelled ⊢
  generalize (character :: rest).drop token.text.length = others at spelled ⊢
  rw [← spelled] at closed
  cases begins with
  | word written _ =>
      refine ⟨rfl, closed.of_append ?_⟩
      exact written.closingDistance_append 0 _
  | @group body after opens closes inner =>
      refine ⟨rfl, closed.of_append ?_⟩
      have same : after = others := by
        rw [LevelToken.text, List.cons_append, List.append_assoc,
          closes] at spelled
        have bodies := List.append_cancel_left (List.cons.inj spelled).2
        exact (List.cons.inj bodies).2.symm
      rw [same] at inner
      exact (inner.append _).closingDistance_group
  | opening opens unmatched =>
      subst opens
      rw [spelled] at closed
      exact absurd closed (not_closedBy_of_unmatched unmatched behind)
  | closing closing =>
      rw [LevelToken.text, ClosedBy] at closed
      cases closed
  | symbol operator _ =>
      refine ⟨rfl, closed.of_append ?_⟩
      exact operator.closingDistance_cons 0 _
  | other noToken =>
      refine ⟨rfl, closed.of_append ?_⟩
      apply closingDistance_cons_of_ne
      · rintro rfl
        cases noToken
      · rintro rfl
        cases noToken

/-- No token of closed text is a bracket by itself. -/
theorem ClosedBy.isBracket_eq_false
    {level behind : List Char}
    (closed : ClosedBy behind level) :
    ∀ token ∈ levelTokens level, token.isBracket = false := by
  fun_induction levelTokens level with
  | case1 =>
      intro token member
      exact absurd member List.not_mem_nil
  | case2 character rest first hypothesis =>
      rcases closed.first with ⟨noBracket, others⟩
      intro token member
      rcases List.mem_cons.1 member with rfl | further
      · exact noBracket
      · exact hypothesis others token further

/-- A level with a bracket by itself is the whole text. -/
theorem IsLevel.eq_whole
    {text level : List Char}
    {token : LevelToken}
    (isLevel : IsLevel text level)
    (member : token ∈ levelTokens level)
    (bracket : token.isBracket = true) :
    level = text := by
  cases isLevel with
  | whole => rfl
  | group _ closed =>
      rw [closed.isBracket_eq_false token member] at bracket
      cases bracket

/-! ## What an error points at -/

/-- The expression and the position that an error names. -/
def ParseError.location? : ParseError → Option (String × Nat)
  | .unknownParameter _ _ _ => none
  | .unexpectedClosing _ expression position => some (expression, position)
  | .missingClosing _ _ => none
  | .emptyGroup _ expression position => some (expression, position)
  | .illegalCharacter _ expression _ position => some (expression, position)
  | .missingOperand _ expression _ position => some (expression, position)
  | .missingOperator _ expression position => some (expression, position)
  | .emptyFormula => none

/-- The error names the formula, and what it points at in a level of the formula is its culprit. -/
inductive PointsAt (parameters : List String) (formula : String) : ParseError → Prop where
  | unknownParameter
      {name : String}
      (unknown : name ∉ parameters) :
      PointsAt parameters formula (.unknownParameter formula name parameters)
  /-- The whole formula has the closing bracket at the position. -/
  | unexpectedClosing
      {position : Nat}
      (closing : formula.toList[position]? = some ')') :
      PointsAt parameters formula (.unexpectedClosing formula formula position)
  /-- The whole formula has an opening bracket that is not closed. -/
  | missingClosing
      {position : Nat}
      (stands : TokenAt formula.toList position .opening) :
      PointsAt parameters formula (.missingClosing formula formula)
  | emptyGroup
      {expression : String}
      {position : Nat}
      (isLevel : IsLevel formula.toList expression.toList)
      (opening : expression.toList[position]? = some '(')
      (closing : expression.toList[position + 1]? = some ')') :
      PointsAt parameters formula (.emptyGroup formula expression position)
  | illegalCharacter
      {expression : String}
      {character : Char}
      {position : Nat}
      (isLevel : IsLevel formula.toList expression.toList)
      (found : expression.toList[position]? = some character)
      (noToken : beginsToken character = false) :
      PointsAt parameters formula
        (.illegalCharacter formula expression character position)
  | missingOperand
      {expression : String}
      {operator : Operator}
      {position : Nat}
      (isLevel : IsLevel formula.toList expression.toList)
      (found : expression.toList[position]? = some operator.symbol) :
      PointsAt parameters formula
        (.missingOperand formula expression operator.symbol position)
  /-- A numeral, a name or a group begins at the position. -/
  | missingOperator
      {expression : String}
      {position : Nat}
      {token : LevelToken}
      (isLevel : IsLevel formula.toList expression.toList)
      (operand : token.isOperand = true)
      (stands : TokenAt expression.toList position token) :
      PointsAt parameters formula
        (.missingOperator formula expression position)
  | emptyFormula
      (empty : formula = "") :
      PointsAt parameters formula .emptyFormula

/-- The position is inside of the level. -/
theorem PointsAt.location
    {parameters : List String}
    {formula expression : String}
    {fault : ParseError}
    {position : Nat}
    (points : PointsAt parameters formula fault)
    (located : fault.location? = some (expression, position)) :
    IsLevel formula.toList expression.toList ∧ position < expression.length := by
  have inside
      {character : Char}
      (found : expression.toList[position]? = some character) :
      position < expression.length := by
    rw [← String.length_toList]
    exact (List.getElem?_eq_some_iff.1 found).1
  cases points with
  | unknownParameter _ => cases located
  | unexpectedClosing closing =>
      cases located
      exact ⟨.whole, inside closing⟩
  | missingClosing _ => cases located
  | emptyGroup isLevel opening _ =>
      cases located
      exact ⟨isLevel, inside opening⟩
  | illegalCharacter isLevel found _ =>
      cases located
      exact ⟨isLevel, inside found⟩
  | missingOperand isLevel found =>
      cases located
      exact ⟨isLevel, inside found⟩
  | missingOperator isLevel _ stands =>
      cases located
      rcases stands.exists_begins with ⟨_, _, _, first, _⟩
      exact ⟨isLevel, inside first⟩
  | emptyFormula _ => cases located

/-! ## The faults of a level -/

namespace Scope

variable {scope : Scope} {fault : ParseError}

/-- A fault that is found among tokens is that of one of them, or of an operator at their end. -/
theorem exists_of_scanFault?
    {previous : Option LevelToken}
    {position : Nat}
    {tokens : List LevelToken}
    (found : scope.scanFault? previous position tokens = some fault) :
    (∃ before token behind last,
        tokens = before ++ token :: behind ∧
          scope.tokenFault? last
              (position + (before.flatMap LevelToken.text).length) token =
            some fault) ∨
      scope.endFault? (tokens.getLast?.or previous) = some fault := by
  induction tokens generalizing previous position with
  | nil => exact .inr found
  | cons token tokens hypothesis =>
      rw [scanFault?, Option.or_eq_some_iff] at found
      rcases found with own | ⟨_, further⟩
      · exact .inl ⟨[], token, tokens, previous, rfl, own⟩
      · rcases hypothesis further with
          ⟨before, other, behind, last, rfl, inside⟩ | ended
        · left
          refine ⟨token :: before, other, behind, last, rfl, ?_⟩
          rw [List.flatMap_cons, List.length_append, ← Nat.add_assoc]
          exact inside
        · right
          rw [Option.or_some] at ended
          rw [List.getLast?_cons, Option.some_or]
          exact ended

/-- The operator at the end of a level is its last character. -/
theorem tokenAt_of_getLast?
    {level : List Char}
    {operator : Operator}
    (last : (levelTokens level).getLast? = some (.symbol operator)) :
    TokenAt level (level.length - 1) (.symbol operator) := by
  rcases List.getLast?_eq_some_iff.1 last with ⟨before, split⟩
  have length := congrArg List.length (flatMap_levelTokens level)
  rw [split, List.flatMap_append, List.flatMap_singleton, LevelToken.text,
    List.length_append, List.length_singleton] at length
  refine ⟨before, [], split, ?_⟩
  rw [← length, Nat.add_sub_cancel]

/-- The fault of a token by itself points at it. -/
theorem pointsAt_of_ownFault?
    (isLevel : IsLevel scope.formula.toList scope.expression)
    {position : Nat}
    {token : LevelToken}
    (stands : TokenAt scope.expression position token)
    (found : scope.ownFault? position token = some fault) :
    PointsAt scope.parameters scope.formula fault := by
  have named : (String.ofList scope.expression).toList = scope.expression :=
    String.toList_ofList
  have whole
      (bracket : token.isBracket = true) :
      String.ofList scope.expression = scope.formula := by
    rw [isLevel.eq_whole stands.mem bracket, String.ofList_toList]
  rcases stands.exists_begins with ⟨character, rest, ahead, first, begins⟩
  rw [← named] at isLevel first stands
  cases begins with
  | word written _ =>
      cases written with
      | numeral _ _ => cases found
      | name name _ =>
          rw [ownFault?] at found
          split at found
          · cases found
          · rename_i unknown
            cases found
            exact .unknownParameter unknown
  | @group body behind opens closes _ =>
      cases body with
      | nil =>
          cases found
          subst opens
          apply PointsAt.emptyGroup isLevel first
          rw [named, ← List.getElem?_drop, ahead, closes]
          rfl
      | cons _ _ => cases found
  | opening _ _ =>
      rw [whole rfl] at stands
      rw [ownFault?, whole rfl] at found
      cases found
      exact .missingClosing stands
  | closing closes =>
      rw [whole rfl, closes] at first
      rw [ownFault?, whole rfl] at found
      cases found
      exact .unexpectedClosing first
  | symbol operator _ => cases found
  | other noToken =>
      cases found
      exact .illegalCharacter isLevel first noToken

/-- An operator that lacks an operand stands at the position. -/
theorem pointsAt_missingOperand
    (isLevel : IsLevel scope.formula.toList scope.expression)
    {position : Nat}
    {operator : Operator}
    (stands : TokenAt scope.expression position (.symbol operator)) :
    PointsAt scope.parameters scope.formula
      (.missingOperand scope.formula (String.ofList scope.expression)
        operator.symbol position) := by
  rcases stands.exists_begins with ⟨character, rest, ahead, first, begins⟩
  rw [← String.toList_ofList (l := scope.expression)] at isLevel first
  cases begins with
  | symbol _ spelled =>
      rw [spelled] at first
      exact .missingOperand isLevel first

/-- The fault of a token behind the one before it points at the token. -/
theorem pointsAt_of_placeFault?
    (isLevel : IsLevel scope.formula.toList scope.expression)
    {previous : Option LevelToken}
    {position : Nat}
    {token : LevelToken}
    (stands : TokenAt scope.expression position token)
    (found : scope.placeFault? previous position token = some fault) :
    PointsAt scope.parameters scope.formula fault := by
  have missingOperator
      (operand : token.isOperand = true) :
      PointsAt scope.parameters scope.formula
        (.missingOperator scope.formula (String.ofList scope.expression)
          position) := by
    rw [← String.toList_ofList (l := scope.expression)] at isLevel stands
    exact .missingOperator isLevel operand stands
  cases token with
  | symbol operator =>
      rw [placeFault?] at found
      split at found
      · cases found
      · cases found
        exact pointsAt_missingOperand isLevel stands
  | word written =>
      simp only [placeFault?] at found
      split at found
      · cases found
        exact missingOperator rfl
      · cases found
  | group body =>
      simp only [placeFault?] at found
      split at found
      · cases found
        exact missingOperator rfl
      · cases found
  | _ => cases found

/-- The first fault of a level points at its culprit. -/
theorem pointsAt_of_scanFault?
    (isLevel : IsLevel scope.formula.toList scope.expression)
    (found :
      scope.scanFault? none 0 (levelTokens scope.expression) = some fault) :
    PointsAt scope.parameters scope.formula fault := by
  rcases exists_of_scanFault? found with
    ⟨before, token, behind, last, split, faulty⟩ | ended
  · rw [Nat.zero_add] at faulty
    have stands :
        TokenAt scope.expression
          (before.flatMap LevelToken.text).length token :=
      ⟨before, behind, split, rfl⟩
    rw [tokenFault?, Option.or_eq_some_iff] at faulty
    rcases faulty with own | ⟨_, place⟩
    · exact pointsAt_of_ownFault? isLevel stands own
    · exact pointsAt_of_placeFault? isLevel stands place
  · rw [Option.or_none] at ended
    cases last : (levelTokens scope.expression).getLast? with
    | none =>
        rw [last] at ended
        cases ended
    | some token =>
        rw [last] at ended
        cases token with
        | symbol operator =>
            cases ended
            exact pointsAt_missingOperand isLevel (tokenAt_of_getLast? last)
        | _ => cases ended

/-- The first fault of a level, or of the groups in it, points at its culprit. -/
theorem pointsAt_of_firstFault?
    (isLevel : IsLevel scope.formula.toList scope.expression)
    (found : scope.firstFault? = some fault) :
    PointsAt scope.parameters scope.formula fault := by
  induction length : scope.expression.length using Nat.strongRecOn
    generalizing scope with
  | ind _ hypothesis =>
      subst length
      rw [firstFault?_eq, Option.or_eq_some_iff] at found
      rcases found with own | ⟨_, deeper⟩
      · exact pointsAt_of_scanFault? isLevel own
      · rcases List.exists_of_findSome?_eq_some deeper with
          ⟨body, member, inside⟩
        rw [List.mem_reverse] at member
        rcases exists_tokenAt_of_mem_groupBodies member with ⟨position, stands⟩
        have points :
            PointsAt (scope.inner body).parameters (scope.inner body).formula
              fault :=
          hypothesis _ (length_lt_of_mem_groupBodies member)
            (isLevel.of_group stands) inside rfl
        exact points

end Scope

/-! ## Every text -/

/--
The parser makes no access out of bounds, and no level ends in which nothing
was read.  The error of a text names the formula and one of its levels, its
position is inside of that level, and what it reports is what stands there.
-/
theorem parse_points_at_culprit
    (precedence : Precedence)
    (parameters : List String)
    (formula : String) :
    Formula.checkedParse precedence parameters formula =
        .ok (Formula.parse precedence parameters formula) ∧
      ∀ fault,
        Formula.parse precedence parameters formula = .error fault →
          PointsAt parameters formula fault ∧
            ∀ expression position,
              fault.location? = some (expression, position) →
                IsLevel formula.toList expression.toList ∧
                  position < expression.length := by
  refine ⟨Formula.checkedParse_eq precedence parameters formula, ?_⟩
  intro fault refused
  have points : PointsAt parameters formula fault := by
    by_cases empty : formula.isEmpty = true
    · rw [Formula.parse, if_pos empty] at refused
      cases refused
      exact .emptyFormula (String.isEmpty_iff.1 empty)
    · have nonempty : formula ≠ "" := by
        rwa [Ne, ← String.isEmpty_iff]
      have read :=
        (Formula.parse_eq_error_iff_readLevels precedence parameters nonempty
          fault).1 refused
      rw [FormulaText.readLevels_start_eq_error_iff nonempty] at read
      exact Scope.pointsAt_of_firstFault? .whole read
  exact ⟨points, fun _ _ located => points.location located⟩

/-- The blank in a group is reported at its position in the group. -/
theorem parse_points_at_blank :
    Formula.parse .climbing [] "1+(2 )" =
        .error (.illegalCharacter "1+(2 )" "2 " ' ' 1) ∧
      IsLevel "1+(2 )".toList "2 ".toList ∧ 1 < "2 ".length := by
  have nonempty : "1+(2 )" ≠ "" := by decide
  have found :
      firstFault? [] "1+(2 )" =
        some (.illegalCharacter "1+(2 )" "2 " ' ' 1) := by
    decide +kernel
  have refused :
      Formula.parse .climbing [] "1+(2 )" =
        .error (.illegalCharacter "1+(2 )" "2 " ' ' 1) := by
    apply (Formula.parse_eq_error_iff_readLevels .climbing [] nonempty _).2
    exact (FormulaText.readLevels_start_eq_error_iff nonempty _).2 found
  rcases (parse_points_at_culprit .climbing [] "1+(2 )").2 _ refused with
    ⟨_, located⟩
  exact ⟨refused, located "2 " 1 rfl⟩

end Formulary
