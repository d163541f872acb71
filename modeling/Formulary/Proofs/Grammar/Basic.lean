import Formulary.Formula.Text

/-!
# The grammar of formula texts

A formula text is an expression of this grammar, without blanks:

    expression := operand (operator operand)*
    operand    := numeral | name | '(' expression ')'

A numeral is a digit followed by digits and points, and a name is a row of
letters followed by digits.

`DerivesExpression` is the grammar as a derivation relation, which collects
the names that occur.  An `Expression` is the syntax tree of a derivation.  It
is a flat chain: no operator binds tighter than another one, and a group
stands for a pair of brackets and for nothing else.  The main statement says
that derivations and syntax trees give the same texts with the same names.
-/

namespace Formulary

/-! ## Words -/

/-- A digit followed by digits and points. -/
inductive IsNumeral : List Char → Prop where
  | intro
      {first : Char}
      {rest : List Char}
      (digit : first.isDigit = true)
      (others :
        ∀ character ∈ rest, (character.isDigit || character == '.') = true) :
      IsNumeral (first :: rest)

/-- A letter followed by letters and then by digits. -/
inductive IsName : List Char → Prop where
  | intro
      {first : Char}
      {letters digits : List Char}
      (letter : first.isAlpha = true)
      (others : ∀ character ∈ letters, character.isAlpha = true)
      (final : ∀ character ∈ digits, character.isDigit = true) :
      IsName (first :: (letters ++ digits))

/-- A digit is a numeral. -/
theorem IsNumeral.digit
    {character : Char}
    (isDigit : character.isDigit = true) :
    IsNumeral [character] :=
  .intro isDigit fun _ member => absurd member List.not_mem_nil

/-- A letter is a name. -/
theorem IsName.letter
    {character : Char}
    (isLetter : character.isAlpha = true) :
    IsName [character] := by
  rw [← List.append_nil [character], List.singleton_append,
    ← List.append_nil []]
  apply IsName.intro isLetter
  · intro _ member
    exact absurd member List.not_mem_nil
  · intro _ member
    exact absurd member List.not_mem_nil

/-- A numeral or a name as it is written. -/
inductive Word where
  | numeral (text : List Char) (shape : IsNumeral text)
  | name (text : List Char) (shape : IsName text)

namespace Word

/-- The characters of a word. -/
def text : Word → List Char
  | numeral text _ => text
  | name text _ => text

/-- The name, if the word is one. -/
def name? : Word → Option String
  | numeral _ _ => none
  | name text _ => some (String.ofList text)

end Word

/-! ## Syntax trees -/

mutual

/-- The characters of a chain, with brackets around groups. -/
def Chain.spell {α : Type} (spelling : α → List Char) : Chain α → List Char
  | .single operand => operand.spell spelling
  | .link before operator operand =>
      before.spell spelling ++ operator.symbol :: operand.spell spelling

/-- The characters of an operand. -/
def Operand.spell {α : Type} (spelling : α → List Char) : Operand α → List Char
  | .atom value => spelling value
  | .group body => '(' :: (body.spell spelling ++ [')'])

end

mutual

/-- The atoms of a chain in the order of its text. -/
def Chain.atoms {α : Type} : Chain α → List α
  | .single operand => operand.atoms
  | .link before _ operand => before.atoms ++ operand.atoms

/-- The atoms of an operand in the order of its text. -/
def Operand.atoms {α : Type} : Operand α → List α
  | .atom value => [value]
  | .group body => body.atoms

end

/-- The syntax tree of a formula text. -/
abbrev Expression :=
  Chain Word

namespace Expression

/-- The text of a syntax tree. -/
def text (expression : Expression) : List Char :=
  expression.spell Word.text

/-- The names that occur in a syntax tree. -/
def names (expression : Expression) : List String :=
  expression.atoms.filterMap Word.name?

/-- Every name of the syntax tree is a parameter. -/
def Known (parameters : List String) (expression : Expression) : Prop :=
  ∀ name ∈ expression.names, name ∈ parameters

instance (parameters : List String) (expression : Expression) :
    Decidable (Known parameters expression) :=
  inferInstanceAs (Decidable (∀ name ∈ expression.names, name ∈ parameters))

end Expression

/-- The names of a known syntax tree are parameters, word by word. -/
theorem Expression.Known.of_mem_atoms
    {parameters : List String}
    {expression : Expression}
    (known : expression.Known parameters)
    {word : Word}
    (member : word ∈ expression.atoms)
    {name : String}
    (named : word.name? = some name) :
    name ∈ parameters :=
  known name (List.mem_filterMap.2 ⟨word, member, named⟩)

/-- The text of one operand of a syntax tree. -/
def Operand.text (operand : Operand Word) : List Char :=
  operand.spell Word.text

/-- Every name of the operand is a parameter. -/
def Operand.Known (parameters : List String) (operand : Operand Word) : Prop :=
  ∀ name ∈ operand.atoms.filterMap Word.name?, name ∈ parameters

@[simp]
theorem Expression.text_single
    (operand : Operand Word) :
    Expression.text (.single operand) = operand.text := by
  rw [Expression.text, Chain.spell, Operand.text]

@[simp]
theorem Expression.text_link
    (before : Expression)
    (operator : Operator)
    (operand : Operand Word) :
    Expression.text (.link before operator operand) =
      Expression.text before ++ operator.symbol :: operand.text := by
  rw [Expression.text, Chain.spell, Expression.text, Operand.text]

@[simp]
theorem Operand.text_atom
    (word : Word) :
    Operand.text (.atom word) = word.text := by
  rw [Operand.text, Operand.spell]

@[simp]
theorem Operand.text_group
    (body : Expression) :
    Operand.text (.group body) = '(' :: (Expression.text body ++ [')']) := by
  rw [Operand.text, Operand.spell, Expression.text]

@[simp]
theorem Expression.known_single
    (parameters : List String)
    (operand : Operand Word) :
    Expression.Known parameters (.single operand) ↔
      operand.Known parameters := by
  rw [Expression.Known, Expression.names, Chain.atoms, Operand.Known]

@[simp]
theorem Expression.known_link
    (parameters : List String)
    (before : Expression)
    (operator : Operator)
    (operand : Operand Word) :
    Expression.Known parameters (.link before operator operand) ↔
      Expression.Known parameters before ∧ operand.Known parameters := by
  simp only [Expression.Known, Expression.names, Chain.atoms,
    List.filterMap_append, List.mem_append, Operand.Known]
  exact
    ⟨fun known =>
      ⟨fun name member => known name (Or.inl member),
        fun name member => known name (Or.inr member)⟩,
      fun known name member =>
        member.elim (known.1 name) (known.2 name)⟩

@[simp]
theorem Operand.known_group
    (parameters : List String)
    (body : Expression) :
    Operand.Known parameters (.group body) ↔
      Expression.Known parameters body := by
  rw [Operand.Known, Operand.atoms, Expression.Known, Expression.names]

@[simp]
theorem Operand.known_numeral
    (parameters : List String)
    (text : List Char)
    (shape : IsNumeral text) :
    Operand.Known parameters (.atom (.numeral text shape)) := by
  simp [Operand.Known, Operand.atoms, Word.name?]

@[simp]
theorem Operand.known_name
    (parameters : List String)
    (text : List Char)
    (shape : IsName text) :
    Operand.Known parameters (.atom (.name text shape)) ↔
      String.ofList text ∈ parameters := by
  simp [Operand.Known, Operand.atoms, Word.name?]

/-! ## Derivations -/

mutual

/-- The text is an expression with the given names. -/
inductive DerivesExpression : List Char → List String → Prop where
  | single
      {text : List Char}
      {names : List String}
      (operand : DerivesOperand text names) :
      DerivesExpression text names
  | link
      {before text : List Char}
      {namesBefore names : List String}
      (expression : DerivesExpression before namesBefore)
      (operator : Operator)
      (operand : DerivesOperand text names) :
      DerivesExpression (before ++ operator.symbol :: text)
        (namesBefore ++ names)

/-- The text is an operand with the given names. -/
inductive DerivesOperand : List Char → List String → Prop where
  | numeral
      {text : List Char}
      (shape : IsNumeral text) :
      DerivesOperand text []
  | name
      {text : List Char}
      (shape : IsName text) :
      DerivesOperand text [String.ofList text]
  | group
      {body : List Char}
      {names : List String}
      (expression : DerivesExpression body names) :
      DerivesOperand ('(' :: (body ++ [')'])) names

end

mutual

/-- The text of a syntax tree has a derivation with its names. -/
theorem Expression.derives :
    (expression : Expression) →
    DerivesExpression (Expression.text expression)
      (Expression.names expression)
  | .single operand => by
      rw [Expression.text_single, Expression.names, Chain.atoms]
      exact .single operand.derives
  | .link before operator operand => by
      rw [Expression.text_link, Expression.names, Chain.atoms,
        List.filterMap_append]
      exact .link (Expression.derives before) operator operand.derives

/-- The text of an operand of a syntax tree has a derivation with its names. -/
theorem Operand.derives :
    (operand : Operand Word) →
    DerivesOperand operand.text (operand.atoms.filterMap Word.name?)
  | .atom (.numeral text shape) => by
      rw [Operand.text_atom, Operand.atoms]
      exact .numeral shape
  | .atom (.name text shape) => by
      rw [Operand.text_atom, Operand.atoms]
      exact .name shape
  | .group body => by
      rw [Operand.text_group, Operand.atoms]
      exact .group (Expression.derives body)

end

mutual

/-- Every derivation of an expression has a syntax tree. -/
theorem DerivesExpression.exists_expression
    {text : List Char}
    {names : List String} :
    DerivesExpression text names →
      ∃ expression : Expression,
        Expression.text expression = text ∧
          Expression.names expression = names
  | .single operand => by
      rcases operand.exists_operand with ⟨tree, rfl, rfl⟩
      exact
        ⟨.single tree, Expression.text_single tree,
          by rw [Expression.names, Chain.atoms]⟩
  | .link expression operator operand => by
      rcases expression.exists_expression with ⟨before, rfl, rfl⟩
      rcases operand.exists_operand with ⟨tree, rfl, rfl⟩
      exact
        ⟨.link before operator tree,
          Expression.text_link before operator tree,
          by rw [Expression.names, Chain.atoms, List.filterMap_append,
            Expression.names]⟩

/-- Every derivation of an operand has a syntax tree. -/
theorem DerivesOperand.exists_operand
    {text : List Char}
    {names : List String} :
    DerivesOperand text names →
      ∃ operand : Operand Word,
        operand.text = text ∧
          operand.atoms.filterMap Word.name? = names
  | .numeral shape =>
      ⟨.atom (.numeral text shape), Operand.text_atom _, by
        rw [Operand.atoms]; rfl⟩
  | .name shape =>
      ⟨.atom (.name text shape), Operand.text_atom _, by
        rw [Operand.atoms]; rfl⟩
  | .group expression => by
      rcases expression.exists_expression with ⟨body, rfl, rfl⟩
      exact
        ⟨.group body, Operand.text_group body,
          by rw [Operand.atoms, Expression.names]⟩

end

/-- The derivable texts are the texts of syntax trees, with the same names. -/
theorem derivesExpression_iff
    (text : List Char)
    (names : List String) :
    DerivesExpression text names ↔
      ∃ expression : Expression,
        Expression.text expression = text ∧
          Expression.names expression = names := by
  constructor
  · exact DerivesExpression.exists_expression
  · rintro ⟨expression, rfl, rfl⟩
    exact Expression.derives expression

end Formulary
