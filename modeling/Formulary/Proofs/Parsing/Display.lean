import Formulary.Proofs.Formula.Equality
import Formulary.Proofs.Formula.Reading
import Formulary.Proofs.Formula.Text
import Formulary.Proofs.Number.Text
import Formulary.Proofs.Parsing.Descending
import Formulary.Proofs.Parsing.Soundness

/-!
# Formulas read back from their text

The text of a parsed formula has a pair of brackets around each group,
whether the group comes from brackets or from precedence.  It is the text of a
syntax tree: that of the grouped chain, with each numeral as its value is
written.  The tree is descending, so it is not regrouped in either mode, and
the numerals read back as equal values.

`parse_displayWith` says that the text parses to an equal formula, unless a
numeral is too large for a number or has several points.
-/

namespace Formulary

/-! ## Words as they are shown -/

namespace Word

/-- The word by which the text of a formula shows its atom: a numeral as its value is written. -/
def shown : Word → Word
  | numeral text shape =>
      if finite : (Number.ofText text).isFinite = true then
        numeral (Number.ofText text).text
          (Number.isNumeral_text finite (Number.isNegative_ofText shape))
      else
        numeral text shape
  | name text shape => name text shape

/-- The shown word has the same name, if it is one. -/
theorem name?_shown
    (word : Word) :
    word.shown.name? = word.name? := by
  cases word with
  | numeral text shape =>
      rw [shown]
      split
      · rfl
      · rfl
  | name text shape => rfl

/-- The shown word stands for an equal atom. -/
theorem key_atom_shown
    (parameters : List String)
    (word : Word) :
    (word.shown.atom parameters).key = (word.atom parameters).key := by
  cases word with
  | numeral text shape =>
      rw [shown]
      split
      · exact congrArg Atom.Key.literal (Number.key_ofText_text _)
      · rfl
  | name text shape => rfl

/-- The text of an atom is the shown word, if the atom is no infinity and not-a-number, and no unknown name. -/
theorem atomText_atom
    {parameters : List String}
    {word : Word}
    (finite :
      ∀ value, word.atom parameters = .literal value → value.isFinite = true)
    (known : ∀ name, word.name? = some name → name ∈ parameters) :
    Formula.atomText parameters (word.atom parameters) = word.shown.text := by
  cases word with
  | numeral text shape =>
      rw [shown, dif_pos (finite _ rfl)]
      rfl
  | name text shape =>
      have member := known _ rfl
      have found :
          parameters[parameters.idxOf (String.ofList text)]? =
            some (String.ofList text) := by
        rw [List.getElem?_eq_getElem (List.idxOf_lt_length_of_mem member),
          List.getElem_idxOf]
      rw [atom, Formula.atomText, found]
      exact String.toList_ofList

end Word

namespace Expression

variable {parameters : List String} {expression : Expression}

/-- The syntax tree of the text of a formula: the grouped chain with its words as they are shown. -/
def shown (precedence : Precedence) (expression : Expression) : Expression :=
  (expression.arrange precedence id).map Word.shown

/-- The shown syntax tree has the names of the other one. -/
theorem names_shown
    (precedence : Precedence)
    (expression : Expression) :
    (expression.shown precedence).names = expression.names := by
  have sameNames : Word.name? ∘ Word.shown = Word.name? :=
    funext Word.name?_shown
  rw [names, names, shown, Chain.atoms_map, Chain.atoms_arrange, List.map_id,
    List.filterMap_map, sameNames]

/-- The text of a formula is the text of the shown syntax tree. -/
theorem text_shown
    (precedence : Precedence)
    (known : expression.Known parameters)
    (finite :
      ∀ value,
        Atom.literal value ∈ (expression.formula precedence parameters).atoms →
          value.isFinite = true) :
    (expression.shown precedence).text =
      (expression.formula precedence parameters).text parameters := by
  rw [formula, Chain.atoms_arrange] at finite
  rw [Formula.text_eq_spell, formula, Chain.arrange_eq_map, Chain.spell_map,
    text, shown, Chain.spell_map]
  apply Chain.spell_congr
  intro word member
  rw [Chain.atoms_arrange, List.map_id] at member
  apply Eq.symm
  apply Word.atomText_atom
  · intro value literal
    apply finite
    rw [← literal]
    exact List.mem_map_of_mem member
  · intro name isName
    exact known name (List.mem_filterMap.2 ⟨word, member, isName⟩)

/-- The shown syntax tree stands for an equal formula, in either mode. -/
theorem formula_shown
    (precedence other : Precedence)
    (parameters : List String)
    (expression : Expression) :
    ((expression.shown precedence).formula other parameters ==
      expression.formula precedence parameters) = true := by
  have sameKeys :
      Atom.key ∘ (Word.atom parameters ∘ Word.shown) =
        Atom.key ∘ Word.atom parameters :=
    funext (Word.key_atom_shown parameters)
  rw [Formula.beq_iff_map_key, formula, formula, shown,
    Chain.arrange_map_arrange, Chain.arrange_map, Chain.arrange_map, sameKeys]

end Expression

/--
The text of a parsed formula whose literals are all finite parses again with
the same parameters, in either mode, to an equal formula.
-/
theorem parse_displayWith
    {precedence : Precedence}
    {parameters : List String}
    {formula : String}
    {parsed : Formula}
    (accepted : Formula.parse precedence parameters formula = .ok parsed)
    (finite :
      ∀ value, Atom.literal value ∈ parsed.atoms → value.isFinite = true) :
    ∀ other : Precedence,
      ∃ reparsed,
        Formula.parse other parameters (parsed.displayWith parameters) =
            .ok reparsed ∧
          (reparsed == parsed) = true := by
  intro other
  rcases parse_eq_ok_iff.1 accepted with ⟨expression, _, known, rfl⟩
  have spelled :
      (expression.shown precedence).text =
        (Formula.displayWith (expression.formula precedence parameters)
          parameters).toList := by
    rw [Expression.text_shown precedence known finite, Formula.displayWith,
      String.toList_ofList]
  have shownKnown : (expression.shown precedence).Known parameters := by
    rw [Expression.Known, Expression.names_shown]
    exact known
  exact
    ⟨_, parse_eq_formula spelled shownKnown,
      expression.formula_shown precedence other parameters⟩

/-- A product with a power is shown with brackets and a shorter numeral, and this text parses to an equal formula. -/
theorem parse_displayWith_product :
    let two := Number.finite ⟨false, 2, 0, by decide, by decide⟩
    let half := Number.finite ⟨false, 50, 2, by decide, by decide⟩
    let parsed : Formula :=
      .link (.single (.atom (.literal two))) .multiply
        (.group
          (.link (.single (.atom (.variable 0))) .power
            (.atom (.literal half))))
    Formula.parse .climbing ["x"] "2*x^0.50" = .ok parsed ∧
      (∀ value, Atom.literal value ∈ parsed.atoms → value.isFinite = true) ∧
        parsed.displayWith ["x"] = "2*(x^0.5)" ∧
          ∀ other : Precedence,
            ∃ reparsed,
              Formula.parse other ["x"] "2*(x^0.5)" = .ok reparsed ∧
                (reparsed == parsed) = true := by
  intro two half parsed
  let first : Word := .numeral ['2'] (.digit (by decide))
  let name : Word := .name ['x'] (.letter (by decide))
  let exponent : Word :=
    .numeral ['0', '.', '5', '0'] (.intro (by decide) (List.all_eq_true.1 rfl))
  let expression : Expression :=
    .link (.link (.single (.atom first)) .multiply (.atom name)) .power
      (.atom exponent)
  have spelled : expression.text = "2*x^0.50".toList := rfl
  have known : expression.Known ["x"] := by
    decide
  have formula : expression.formula .climbing ["x"] = parsed := rfl
  have accepted : Formula.parse .climbing ["x"] "2*x^0.50" = .ok parsed := by
    rw [← formula]
    exact parse_eq_formula spelled known
  have finite :
      ∀ value, Atom.literal value ∈ parsed.atoms → value.isFinite = true := by
    intro value member
    have literals : value = two ∨ value = half := by
      simpa [parsed, Chain.atoms, Operand.atoms] using member
    rcases literals with rfl | rfl
    · rfl
    · rfl
  have shown : parsed.displayWith ["x"] = "2*(x^0.5)" := by
    decide +kernel
  have reparses := parse_displayWith accepted finite
  rw [shown] at reparses
  exact ⟨accepted, finite, shown, reparses⟩

end Formulary
