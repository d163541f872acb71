import Formulary.Parsing.Error
import Formulary.Proofs.Parsing.Words

/-!
# The first fault of a text

A bracket level is a whole text, or what stands between two brackets of one.
Its tokens are words, operators and pairs of brackets with all that stands
between them; any other character is a fault.

`Scope.firstFault?` checks a text level by level.  It goes through the tokens
of a level from left to right and then to the end of the level, and after that
through its groups from right to left, each of which it checks completely.
There are no chains and no precedences in it.
-/

namespace Formulary

/-! ## The tokens of a level -/

/-- A token of a bracket level. -/
inductive LevelToken where
  | word (word : Word)
  /-- A pair of brackets and the text between them. -/
  | group (body : List Char)
  /-- An opening bracket that is not closed in the level. -/
  | opening
  /-- A closing bracket that is not opened in the level. -/
  | closing
  | symbol (operator : Operator)
  /-- A character that begins no token. -/
  | other (character : Char)

namespace LevelToken

/-- The characters of a token. -/
def text : LevelToken → List Char
  | .word written => written.text
  | .group body => '(' :: (body ++ [')'])
  | .opening => ['(']
  | .closing => [')']
  | .symbol operator => [operator.symbol]
  | .other character => [character]

/-- The text between the brackets of a group. -/
def body? : LevelToken → Option (List Char)
  | .group body => some body
  | _ => none

/-- The token is a word or a group. -/
def isOperand : LevelToken → Bool
  | .word _ => true
  | .group _ => true
  | _ => false

/-- The token that a bracket or a character of no word begins, in front of a text. -/
def ofCharacter (character : Char) (rest : List Char) : LevelToken :=
  if character = '(' then
    match closingDistance 0 rest with
    | some distance => .group (rest.take distance)
    | none => .opening
  else if character = ')' then
    .closing
  else
    match Operator.ofChar? character with
    | some operator => .symbol operator
    | none => .other character

/-- The first token of a text that begins with a character. -/
def first (character : Char) (rest : List Char) : LevelToken :=
  match splitWord? (character :: rest) with
  | some (written, _) => .word written
  | none => .ofCharacter character rest

theorem text_ne_nil
    (token : LevelToken) :
    token.text ≠ [] := by
  cases token with
  | word written => exact written.text_ne_nil
  | _ => exact List.cons_ne_nil _ _

theorem text_prefix_ofCharacter
    (character : Char)
    (rest : List Char) :
    (ofCharacter character rest).text <+: character :: rest := by
  rw [ofCharacter]
  split
  · rename_i opens
    subst opens
    split
    · rename_i distance counted
      have bracket := getElem?_of_closingDistance counted
      have inside := (List.getElem?_eq_some_iff.1 bracket).1
      refine ⟨rest.drop (distance + 1), ?_⟩
      rw [text, List.cons_append, List.append_assoc, List.singleton_append,
        ← (List.getElem?_eq_some_iff.1 bracket).2,
        ← List.drop_eq_getElem_cons inside, List.take_append_drop]
    · exact ⟨rest, rfl⟩
  · split
    · rename_i closes
      subst closes
      exact ⟨rest, rfl⟩
    · split
      · rename_i operator found
        rw [text, Operator.symbol_of_ofChar? found]
        exact ⟨rest, rfl⟩
      · exact ⟨rest, rfl⟩

/-- The first token is the beginning of its text. -/
theorem text_prefix_first
    (character : Char)
    (rest : List Char) :
    (first character rest).text <+: character :: rest := by
  rw [first]
  split
  · rename_i written behind found
    exact ⟨behind, (eq_append_of_splitWord? found).symm⟩
  · exact text_prefix_ofCharacter character rest

/-- The first token and the text behind it are the whole text. -/
theorem text_first_append
    (character : Char)
    (rest : List Char) :
    (first character rest).text ++
        (character :: rest).drop (first character rest).text.length =
      character :: rest :=
  (List.prefix_iff_eq_append.1 (text_prefix_first character rest))

theorem length_drop_first_lt
    (character : Char)
    (rest : List Char) :
    ((character :: rest).drop (first character rest).text.length).length <
      (character :: rest).length := by
  have length := congrArg List.length (text_first_append character rest)
  rw [List.length_append] at length
  have positive := List.length_pos_iff.2 (first character rest).text_ne_nil
  omega

/-- The body of a group is shorter than the group. -/
theorem length_lt_of_body?
    {token : LevelToken}
    {body : List Char}
    (found : token.body? = some body) :
    body.length < token.text.length := by
  cases token with
  | group inside =>
      cases found
      rw [text, List.length_cons, List.length_append]
      omega
  | _ => cases found

end LevelToken

/-- The tokens of a level from left to right. -/
def levelTokens : (text : List Char) → List LevelToken
  | [] => []
  | character :: rest =>
      let token := LevelToken.first character rest
      token :: levelTokens ((character :: rest).drop token.text.length)
termination_by text => text.length
decreasing_by exact LevelToken.length_drop_first_lt character rest

@[simp]
theorem levelTokens_nil : levelTokens [] = [] := by
  rw [levelTokens]

theorem levelTokens_cons
    (character : Char)
    (rest : List Char) :
    levelTokens (character :: rest) =
      LevelToken.first character rest ::
        levelTokens
          ((character :: rest).drop
            (LevelToken.first character rest).text.length) := by
  rw [levelTokens]

/-- A level is what its tokens spell. -/
theorem flatMap_levelTokens
    (text : List Char) :
    (levelTokens text).flatMap LevelToken.text = text := by
  fun_induction levelTokens text with
  | case1 => rfl
  | case2 character rest token hypothesis =>
      rw [List.flatMap_cons, hypothesis]
      exact LevelToken.text_first_append character rest

/-- The texts between the brackets of the groups of a level, from left to right. -/
def groupBodies (text : List Char) : List (List Char) :=
  (levelTokens text).filterMap LevelToken.body?

@[simp]
theorem groupBodies_nil : groupBodies [] = [] := by
  rw [groupBodies, levelTokens_nil, List.filterMap_nil]

theorem groupBodies_cons
    (character : Char)
    (rest : List Char) :
    groupBodies (character :: rest) =
      (LevelToken.first character rest).body?.toList ++
        groupBodies
          ((character :: rest).drop
            (LevelToken.first character rest).text.length) := by
  rw [groupBodies, levelTokens_cons, List.filterMap_cons, groupBodies]
  cases (LevelToken.first character rest).body? with
  | none => rfl
  | some body => rfl

/-- The body of a group is shorter than the level of the group. -/
theorem length_lt_of_mem_groupBodies
    {text body : List Char}
    (member : body ∈ groupBodies text) :
    body.length < text.length := by
  rcases List.mem_filterMap.1 member with ⟨token, inside, found⟩
  have spelled :=
    (List.sublist_flatten_of_mem
      (List.mem_map_of_mem (f := LevelToken.text) inside)).length_le
  rw [← List.flatMap_def, flatMap_levelTokens] at spelled
  exact Nat.lt_of_lt_of_le (LevelToken.length_lt_of_body? found) spelled

/-! ## The faults of a level -/

/-- A bracket level that is checked, with what its faults name besides it. -/
structure Scope where
  formula : String
  parameters : List String
  expression : List Char

namespace Scope

/-- The fault of a token by itself. -/
def ownFault?
    (scope : Scope)
    (position : Nat) :
    LevelToken → Option ParseError
  | .word (.numeral _ _) => none
  | .word (.name name _) =>
      if String.ofList name ∈ scope.parameters then
        none
      else
        some
          (.unknownParameter scope.formula (String.ofList name)
            scope.parameters)
  | .group [] =>
      some
        (.emptyGroup scope.formula (String.ofList scope.expression) position)
  | .group (_ :: _) => none
  | .opening =>
      some (.missingClosing scope.formula (String.ofList scope.expression))
  | .closing =>
      some
        (.unexpectedClosing scope.formula (String.ofList scope.expression)
          position)
  | .symbol _ => none
  | .other character =>
      some
        (.illegalCharacter scope.formula (String.ofList scope.expression)
          character position)

/-- The fault of a token behind the one before it. -/
def placeFault?
    (scope : Scope)
    (previous : Option LevelToken)
    (position : Nat)
    (token : LevelToken) :
    Option ParseError :=
  let behindOperand := previous.any LevelToken.isOperand
  match token with
  | .symbol operator =>
      if behindOperand then
        none
      else
        some
          (.missingOperand scope.formula (String.ofList scope.expression)
            operator.symbol position)
  | _ =>
      if token.isOperand && behindOperand then
        some
          (.missingOperator scope.formula (String.ofList scope.expression)
            position)
      else
        none

/-- The first fault of a token at a position, behind the token before it. -/
def tokenFault?
    (scope : Scope)
    (previous : Option LevelToken)
    (position : Nat)
    (token : LevelToken) :
    Option ParseError :=
  (scope.ownFault? position token).or
    (scope.placeFault? previous position token)

/-- The fault of the end of a level behind its last token. -/
def endFault? (scope : Scope) : (last : Option LevelToken) → Option ParseError
  | some (.symbol operator) =>
      some
        (.missingOperand scope.formula (String.ofList scope.expression)
          operator.symbol (scope.expression.length - 1))
  | _ => none

/-- The first fault among the tokens from a position on and at the end of the level. -/
def scanFault?
    (scope : Scope)
    (previous : Option LevelToken)
    (position : Nat) :
    (tokens : List LevelToken) → Option ParseError
  | [] => scope.endFault? previous
  | token :: tokens =>
      (scope.tokenFault? previous position token).or
        (scope.scanFault? (some token) (position + token.text.length) tokens)

/-- The level of a group by the text between its brackets. -/
def inner (scope : Scope) (body : List Char) : Scope :=
  { scope with expression := body }

/-- The first fault of a level: among its own tokens, or else in its groups from right to left. -/
def firstFault? (scope : Scope) : Option ParseError :=
  (scope.scanFault? none 0 (levelTokens scope.expression)).or
    ((groupBodies scope.expression).reverse.attach.findSome? fun body =>
      (scope.inner body.1).firstFault?)
termination_by scope.expression.length
decreasing_by
  exact length_lt_of_mem_groupBodies (List.mem_reverse.1 body.2)

theorem firstFault?_eq
    (scope : Scope) :
    scope.firstFault? =
      (scope.scanFault? none 0 (levelTokens scope.expression)).or
        ((groupBodies scope.expression).reverse.findSome? fun body =>
          (scope.inner body).firstFault?) := by
  rw [firstFault?]
  congr 1
  rw [List.findSome?_subtype (g := fun body => (scope.inner body).firstFault?)
    (fun body member => rfl), List.unattach_attach]

end Scope

/-- The first fault of a formula text over a list of parameters. -/
def firstFault? (parameters : List String) (formula : String) : Option ParseError :=
  Scope.firstFault? ⟨formula, parameters, formula.toList⟩

end Formulary
