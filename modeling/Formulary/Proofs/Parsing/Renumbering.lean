import Formulary.Proofs.Parsing.Substitution

/-!
# Other lists of parameters

Which place a name has in the list of parameters does not matter, nor do
parameters that do not occur.  A text that parses over some parameters parses
over every list that has them all: to the same structure, with the variables
renumbered by name.  Its value is the same where the names have the same
arguments.

Names become places word by word, and grouping looks at operators only.  So
everything follows from what a single word stands for, over both lists.
-/

namespace Formulary

/-- The atom over other parameters: a variable gets the place that its name has there. -/
def Atom.renumber (parameters others : List String) : Atom → Atom
  | .literal value => .literal value
  | .variable index =>
      match parameters[index]? with
      | some name => .variable (others.idxOf name)
      | none => .variable index

/-- A word that is a parameter stands for the renumbered atom over other parameters. -/
theorem Word.renumber_atom
    {parameters : List String}
    {word : Word}
    (known : ∀ name, word.name? = some name → name ∈ parameters)
    (others : List String) :
    (word.atom parameters).renumber parameters others = word.atom others := by
  cases word with
  | numeral text shape => rfl
  | name text shape =>
      have inside := List.idxOf_lt_length_of_mem (known _ rfl)
      have named :
          parameters[parameters.idxOf (String.ofList text)]? =
            some (String.ofList text) := by
        rw [List.getElem?_eq_getElem inside, List.getElem_idxOf inside]
      rw [Word.atom, Atom.renumber, named]
      rfl

/-- A word that is a parameter has the same value over two lists in which names have the same arguments. -/
theorem Word.value_atom_congr
    {parameters others : List String}
    {arguments otherArguments : List Number}
    (same :
      ∀ name ∈ parameters,
        otherArguments[others.idxOf name]? =
          arguments[parameters.idxOf name]?)
    {word : Word}
    (known : ∀ name, word.name? = some name → name ∈ parameters) :
    (word.atom others).value otherArguments =
      (word.atom parameters).value arguments := by
  cases word with
  | numeral text shape => rfl
  | name text shape =>
      rw [Word.atom, Word.atom, Atom.value, Atom.value, same _ (known _ rfl)]

/-- Meanings that agree on the atoms of a chain give the same grouped chain. -/
theorem Chain.arrange_congr
    {α β : Type}
    {left right : α → β}
    (precedence : Precedence)
    (chain : Chain α)
    (same : ∀ value ∈ chain.atoms, left value = right value) :
    chain.arrange precedence left = chain.arrange precedence right := by
  rw [Chain.arrange_eq_map precedence left,
    Chain.arrange_eq_map precedence right, Chain.map, Chain.map,
    Chain.substitute_eq_iff, Chain.atoms_arrange, List.map_id]
  intro value member
  rw [same value member]

section

variable {precedence : Precedence} {parameters : List String}
variable {expression : Expression}

/-- The formula of a known syntax tree over other parameters has its variables renumbered. -/
theorem Expression.formula_renumber
    (known : expression.Known parameters)
    (others : List String) :
    (expression.formula precedence parameters).map
        (Atom.renumber parameters others) =
      expression.formula precedence others := by
  rw [Expression.formula, Chain.arrange_map, Expression.formula]
  apply Chain.arrange_congr
  intro word member
  exact
    Word.renumber_atom (fun _ named => known.of_mem_atoms member named) others

/-- The formula of a known syntax tree has the same value where its names have the same arguments. -/
theorem Expression.evaluate_formula_congr
    (known : expression.Known parameters)
    {others : List String}
    {arguments otherArguments : List Number}
    (same :
      ∀ name ∈ parameters,
        otherArguments[others.idxOf name]? =
          arguments[parameters.idxOf name]?) :
    (expression.formula precedence others).evaluate otherArguments =
      (expression.formula precedence parameters).evaluate arguments := by
  rw [Expression.formula, Expression.formula,
    Chain.arrange_eq_map precedence (Word.atom others),
    Chain.arrange_eq_map precedence (Word.atom parameters)]
  apply Formula.evaluate_substitute_congr
  intro word member
  rw [Chain.atoms_arrange, List.map_id] at member
  rw [Operand.evaluate_atom, Operand.evaluate_atom]
  exact
    Word.value_atom_congr same fun _ named => known.of_mem_atoms member named

end

/--
A text that parses over some parameters parses over every list that has them
all, in both precedence modes: to the same structure with the variables
renumbered by name, and with the same value under arguments that agree on the
names of the first list.
-/
theorem parse_renumber
    {precedence : Precedence}
    {parameters others : List String}
    (extended : ∀ name ∈ parameters, name ∈ others)
    {formula : String}
    {parsed : Formula}
    (accepted : Formula.parse precedence parameters formula = .ok parsed) :
    ∃ renumbered,
      Formula.parse precedence others formula = .ok renumbered ∧
        renumbered = parsed.map (Atom.renumber parameters others) ∧
          ∀ arguments otherArguments : List Number,
            (∀ name ∈ parameters,
              otherArguments[others.idxOf name]? =
                arguments[parameters.idxOf name]?) →
              renumbered.evaluate otherArguments =
                parsed.evaluate arguments := by
  rcases parse_eq_ok_iff.1 accepted with ⟨expression, spelled, known, rfl⟩
  have knownOthers : expression.Known others :=
    fun name member => extended name (known name member)
  refine ⟨_, parse_eq_formula spelled knownOthers, ?_, ?_⟩
  · exact (Expression.formula_renumber known others).symm
  · intro arguments otherArguments same
    exact Expression.evaluate_formula_congr known same

/-- Two names in the other order, with a third one between them, have other indices, but the same value. -/
theorem parse_renumber_of_exchanged :
    let difference (left right : Nat) : Formula :=
      .link (.single (.atom (.variable left))) .subtract
        (.group
          (.link (.single (.atom (.variable right))) .power
            (.atom (.variable left))))
    Formula.parse .singleLevel ["x", "y"] "x-y^x" = .ok (difference 0 1) ∧
      Formula.parse .singleLevel ["y", "z", "x"] "x-y^x" =
          .ok (difference 2 0) ∧
        ∀ x y z : Number,
          (difference 2 0).evaluate [y, z, x] =
            (difference 0 1).evaluate [x, y] := by
  intro difference
  let nameX : Word := .name ['x'] (.letter (by decide))
  let nameY : Word := .name ['y'] (.letter (by decide))
  let expression : Expression :=
    .link (.link (.single (.atom nameX)) .subtract (.atom nameY)) .power
      (.atom nameX)
  have spelled : expression.text = "x-y^x".toList := rfl
  have known : expression.Known ["x", "y"] := by
    decide
  have formula :
      expression.formula .singleLevel ["x", "y"] = difference 0 1 :=
    rfl
  have accepted :
      Formula.parse .singleLevel ["x", "y"] "x-y^x" =
        .ok (difference 0 1) := by
    rw [← formula]
    exact parse_eq_formula spelled known
  have extended : ∀ name ∈ ["x", "y"], name ∈ ["y", "z", "x"] := by
    decide
  rcases parse_renumber extended accepted with
    ⟨renumbered, parses, renamed, value⟩
  have exchanged : renumbered = difference 2 0 := by
    rw [renamed]
    simp only [difference, Chain.map_link, Chain.map_single, Operand.map_group,
      Operand.map_atom]
    rfl
  rw [exchanged] at parses value
  refine ⟨accepted, parses, ?_⟩
  intro x y z
  apply value
  intro name member
  rcases List.mem_pair.1 member with rfl | rfl
  · rfl
  · rfl

end Formulary
