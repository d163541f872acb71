import Mathlib.Data.List.Basic
import Formulary.Proofs.Formula.Evaluation
import Formulary.Proofs.Parsing.Lexemes
import Formulary.Proofs.Parsing.Soundness

/-!
# Formulas in the place of names

Where a formula in brackets is written in the place of a name, the value of
the whole is that of the outer formula with the value of the inner one as the
argument of that name.  So it does not matter that groups are put off while a
level is read, or what chains are open around them.

The text is changed on words, a syntax tree on its atoms.  Grouping by
precedence takes place level by level, so it goes through substitution:
`Chain.arrange_substitute`.
-/

namespace Formulary

/-! ## Substitution in a text -/

/-- The text with a replacement in the place of each occurrence of a name. -/
def replaceName (name : String) (replacement : List Char) :
    (text : List Char) → List Char
  | [] => []
  | first :: rest =>
      match _found : splitWord? (first :: rest) with
      | some (written, behind) =>
          (if written.name? = some name then replacement else written.text) ++
            replaceName name replacement behind
      | none => first :: replaceName name replacement rest
termination_by text => text.length
decreasing_by
  · exact length_lt_of_splitWord? _found
  · exact Nat.lt_succ_self _

/-- A formula text with another one, in brackets, in the place of each occurrence of a name. -/
def inlineName (name inner outer : String) : String :=
  String.ofList
    (replaceName name ('(' :: (inner.toList ++ [')'])) outer.toList)

section

variable (name : String) (replacement : List Char)

theorem replaceName_of_splitWord?
    {text rest : List Char}
    {written : Word}
    (found : splitWord? text = some (written, rest)) :
    replaceName name replacement text =
      (if written.name? = some name then replacement else written.text) ++
        replaceName name replacement rest := by
  cases text with
  | nil => cases found
  | cons first others =>
      rw [replaceName]
      split
      · rename_i other behind same
        rw [found] at same
        cases same
        rfl
      · rename_i missing
        rw [found] at missing
        cases missing

theorem replaceName_of_noWord
    {first : Char}
    {rest : List Char}
    (missing : splitWord? (first :: rest) = none) :
    replaceName name replacement (first :: rest) =
      first :: replaceName name replacement rest := by
  rw [replaceName]
  split
  · rename_i found
    rw [missing] at found
    cases found
  · rfl

end

/-! ## Substitution in a syntax tree -/

/-- The operand in the place of a word: a group in that of a name, and any other word by itself. -/
def Word.inline (name : String) (body : Expression) (written : Word) : Operand Word :=
  if written.name? = some name then .group body else .atom written

theorem Word.text_inline
    (name : String)
    (body : Expression)
    (written : Word) :
    (written.inline name body).text =
      if written.name? = some name then
        '(' :: (body.text ++ [')'])
      else
        written.text := by
  rw [inline]
  split
  · exact Operand.text_group body
  · exact Operand.text_atom written

section

variable (name : String) (body : Expression)

mutual

/-- To replace a name in the text of a syntax tree is to replace it in the tree. -/
theorem Expression.replaceName_append
    {rest : List Char} :
    (expression : Expression) →
    StopsWord rest →
    replaceName name ('(' :: (body.text ++ [')']))
        (Expression.text expression ++ rest) =
      Expression.text (Chain.substitute (Word.inline name body) expression) ++
        replaceName name ('(' :: (body.text ++ [')'])) rest
  | .single operand, stops => by
      rw [Expression.text_single, Chain.substitute_single,
        Expression.text_single, Operand.replaceName_append operand stops]
  | .link before operator operand, stops => by
      rw [Expression.text_link, Chain.substitute_link, Expression.text_link,
        List.append_assoc, List.append_assoc, List.cons_append,
        List.cons_append,
        Expression.replaceName_append before (stopsWord_symbol operator _),
        replaceName_of_noWord _ _ (splitWord?_symbol operator _),
        Operand.replaceName_append operand stops]

theorem Operand.replaceName_append
    {rest : List Char} :
    (operand : Operand Word) →
    StopsWord rest →
    replaceName name ('(' :: (body.text ++ [')'])) (operand.text ++ rest) =
      (operand.substitute (Word.inline name body)).text ++
        replaceName name ('(' :: (body.text ++ [')'])) rest
  | .atom written, stops => by
      rw [Operand.text_atom, Operand.substitute_atom, Word.text_inline,
        replaceName_of_splitWord? _ _ (splitWord?_append written stops)]
  | .group inside, stops => by
      rw [Operand.text_group, Operand.substitute_group, Operand.text_group,
        List.cons_append, List.append_assoc, List.singleton_append,
        replaceName_of_noWord _ _ (splitWord?_of_noWord rfl rfl _),
        Expression.replaceName_append inside (stopsWord_closing rest),
        replaceName_of_noWord _ _ (splitWord?_of_noWord rfl rfl _),
        List.cons_append, List.append_assoc, List.singleton_append]

end

/-- The text of a syntax tree with a name replaced. -/
theorem Expression.replaceName_text
    (expression : Expression) :
    replaceName name ('(' :: (body.text ++ [')'])) expression.text =
      Expression.text (expression.substitute (Word.inline name body)) := by
  have whole :=
    Expression.replaceName_append name body expression stopsWord_nil
  rw [List.append_nil, replaceName, List.append_nil] at whole
  exact whole

end

/-! ## Substitution and what a tree stands for -/

section

variable {α β γ : Type} (replacement : α → Operand β)

mutual

/-- The atoms of a chain after substitution are those of the operands put in. -/
theorem Chain.atoms_substitute :
    (chain : Chain α) →
    (chain.substitute replacement).atoms =
      chain.atoms.flatMap fun value => (replacement value).atoms
  | .single operand => by
      rw [Chain.substitute_single, Chain.atoms, Chain.atoms,
        Operand.atoms_substitute operand]
  | .link before operator operand => by
      rw [Chain.substitute_link, Chain.atoms, Chain.atoms, List.flatMap_append,
        Chain.atoms_substitute before, Operand.atoms_substitute operand]

theorem Operand.atoms_substitute :
    (operand : Operand α) →
    (operand.substitute replacement).atoms =
      operand.atoms.flatMap fun value => (replacement value).atoms
  | .atom value => by
      rw [Operand.substitute_atom, Operand.atoms, List.flatMap_singleton]
  | .group body => by
      rw [Operand.substitute_group, Operand.atoms, Operand.atoms,
        Chain.atoms_substitute body]

end

variable (precedence : Precedence) (meaning : β → γ)

mutual

/-- Operands can be put in before the chain around them is grouped, or grouped by themselves and put in afterwards. -/
theorem Chain.site_substitute :
    (chain : Chain α) →
    (chain.substitute replacement).site precedence meaning =
      (chain.site precedence id).substitute fun value =>
        (replacement value).arrange precedence meaning
  | .single operand => by
      rw [Chain.substitute_single, Chain.site, Chain.site, Site.substitute,
        Chain.substitute_single, Operand.arrange_substitute operand,
        List.map_nil]
  | .link before operator operand => by
      rw [Chain.substitute_link, Chain.site, Chain.site,
        ← Site.extend_substitute, Chain.site_substitute before,
        Operand.arrange_substitute operand]

theorem Operand.arrange_substitute :
    (operand : Operand α) →
    (operand.substitute replacement).arrange precedence meaning =
      (operand.arrange precedence id).substitute fun value =>
        (replacement value).arrange precedence meaning
  | .atom value => by
      rw [Operand.substitute_atom, Operand.arrange, Operand.substitute_atom, id]
  | .group body => by
      rw [Operand.substitute_group, Operand.arrange, Operand.arrange,
        Operand.substitute_group, ← Site.close_substitute,
        Chain.site_substitute body]

end

/-- Grouping goes through substitution: each operand that is put in is grouped by itself. -/
theorem Chain.arrange_substitute
    (chain : Chain α) :
    (chain.substitute replacement).arrange precedence meaning =
      (chain.arrange precedence id).substitute fun value =>
        (replacement value).arrange precedence meaning := by
  rw [Chain.arrange, Chain.arrange, ← Site.close_substitute,
    Chain.site_substitute]

end

section

variable {α : Type} {left right : α → Operand Atom}
variable {argumentsLeft argumentsRight : List Number}

mutual

/-- A formula has equal values after substitutions that have equal values on its atoms. -/
theorem Formula.evaluate_substitute_congr :
    (chain : Chain α) →
    (∀ value ∈ chain.atoms,
      (left value).evaluate argumentsLeft =
        (right value).evaluate argumentsRight) →
    Formula.evaluate (chain.substitute left) argumentsLeft =
      Formula.evaluate (chain.substitute right) argumentsRight
  | .single operand, same => by
      rw [Chain.atoms] at same
      rw [Chain.substitute_single, Chain.substitute_single,
        Formula.evaluate_single, Formula.evaluate_single,
        Operand.evaluate_substitute_congr operand same]
  | .link before operator operand, same => by
      rw [Chain.atoms] at same
      rw [Chain.substitute_link, Chain.substitute_link, Formula.evaluate_link,
        Formula.evaluate_link,
        Formula.evaluate_substitute_congr before fun value member =>
          same value (List.mem_append_left _ member),
        Operand.evaluate_substitute_congr operand fun value member =>
          same value (List.mem_append_right _ member)]

theorem Operand.evaluate_substitute_congr :
    (operand : Operand α) →
    (∀ value ∈ operand.atoms,
      (left value).evaluate argumentsLeft =
        (right value).evaluate argumentsRight) →
    (operand.substitute left).evaluate argumentsLeft =
      (operand.substitute right).evaluate argumentsRight
  | .atom value, same => by
      rw [Operand.substitute_atom, Operand.substitute_atom]
      exact same value (by rw [Operand.atoms]; exact List.mem_singleton_self _)
  | .group body, same => by
      rw [Operand.atoms] at same
      rw [Operand.substitute_group, Operand.substitute_group,
        Formula.evaluate_group, Formula.evaluate_group,
        Formula.evaluate_substitute_congr body same]

end

end

/-! ## A formula in the place of a name -/

section

variable {parameters : List String} {name : String} {body : Expression}

/-- The names of a syntax tree with a known one put in are known. -/
theorem Expression.Known.inline
    {expression : Expression}
    (known : expression.Known parameters)
    (knownBody : body.Known parameters) :
    Expression.Known parameters
      (expression.substitute (Word.inline name body)) := by
  intro found member
  rw [Expression.names, Chain.atoms_substitute, List.mem_filterMap] at member
  rcases member with ⟨written, inside, named⟩
  rcases List.mem_flatMap.1 inside with ⟨original, occurs, inside⟩
  rw [Word.inline] at inside
  split at inside
  · rw [Operand.atoms] at inside
    exact knownBody.of_mem_atoms inside named
  · rw [Operand.atoms, List.mem_singleton] at inside
    subst inside
    exact known.of_mem_atoms occurs named

/-- The operand in the place of a word has the value of the word where the name has the value of the group. -/
theorem Word.evaluate_inline
    {written : Word}
    (known : ∀ other, written.name? = some other → other ∈ parameters)
    {arguments : List Number}
    (length : arguments.length = parameters.length)
    (precedence : Precedence) :
    Operand.evaluate
        ((written.inline name body).arrange precedence (Word.atom parameters))
        arguments =
      (written.atom parameters).value
        (arguments.set (parameters.idxOf name)
          ((body.formula precedence parameters).evaluate arguments)) := by
  rw [inline]
  split
  · rename_i named
    have member := known name named
    cases written with
    | numeral text shape => cases named
    | name text shape =>
        cases named
        rw [Operand.arrange, Formula.evaluate_group, atom, Atom.value,
          List.getElem?_set_self
            (by rw [length]; exact List.idxOf_lt_length_of_mem member)]
        rfl
  · rename_i other
    rw [Operand.arrange, Operand.evaluate_atom]
    cases written with
    | numeral text shape => rfl
    | name text shape =>
        have apart :
            parameters.idxOf name ≠ parameters.idxOf (String.ofList text) := by
          intro same
          apply other
          rw [name?, (List.idxOf_inj (known _ rfl)).1 same.symm]
        rw [atom, Atom.value, Atom.value, List.getElem?_set_ne apart]

end

/--
Where a formula in brackets is written in the place of a name, the text parses
and has the value of the outer formula under the arguments in which the value
of the inner one is that of the name, in both precedence modes.
-/
theorem parse_inlineName
    {precedence : Precedence}
    {parameters : List String}
    {outer inner : String}
    {parsedOuter parsedInner : Formula}
    (outerParses : Formula.parse precedence parameters outer = .ok parsedOuter)
    (innerParses : Formula.parse precedence parameters inner = .ok parsedInner)
    (name : String) :
    ∃ parsed,
      Formula.parse precedence parameters (inlineName name inner outer) =
          .ok parsed ∧
        ∀ arguments : List Number,
          arguments.length = parameters.length →
            parsed.evaluate arguments =
              parsedOuter.evaluate
                (arguments.set (parameters.idxOf name)
                  (parsedInner.evaluate arguments)) := by
  rcases parse_eq_ok_iff.1 outerParses with
    ⟨expression, spelled, known, rfl⟩
  rcases parse_eq_ok_iff.1 innerParses with
    ⟨body, spelledBody, knownBody, rfl⟩
  have knownWhole :
      Expression.Known parameters
        (expression.substitute (Word.inline name body)) :=
    known.inline knownBody
  refine ⟨_, parse_eq_formula ?_ knownWhole, ?_⟩
  · rw [inlineName, String.toList_ofList, ← spelled, ← spelledBody,
      Expression.replaceName_text]
  · intro arguments length
    have words :
        ∀ written ∈ expression.atoms,
          ∀ other, written.name? = some other → other ∈ parameters := by
      intro written occurs other named
      exact known other (List.mem_filterMap.2 ⟨written, occurs, named⟩)
    rw [Expression.formula, Chain.arrange_substitute, Expression.formula,
      Chain.arrange_eq_map precedence (Word.atom parameters) expression]
    apply Formula.evaluate_substitute_congr
    intro written occurs
    rw [Chain.atoms_arrange, List.map_id] at occurs
    rw [Word.evaluate_inline (words written occurs) length,
      Operand.evaluate_atom]

/-- The square of a name with a sum in its place is the square of the sum. -/
theorem parse_inlineName_square :
    let pair (operator : Operator) (left right : Operand Atom) : Formula :=
      .link (.single left) operator right
    let square := pair .multiply (.atom (.variable 0)) (.atom (.variable 0))
    let sum := pair .add (.atom (.variable 0)) (.atom (.variable 1))
    let whole := pair .multiply (.group sum) (.group sum)
    Formula.parse .climbing ["x", "y"] "x*x" = .ok square ∧
      Formula.parse .climbing ["x", "y"] "x+y" = .ok sum ∧
        Formula.parse .climbing ["x", "y"] "(x+y)*(x+y)" = .ok whole ∧
          ∀ x y : Number,
            whole.evaluate [x, y] =
              square.evaluate [sum.evaluate [x, y], y] := by
  intro pair square sum whole
  let nameX : Operand Word := .atom (.name ['x'] (.letter (by decide)))
  let nameY : Operand Word := .atom (.name ['y'] (.letter (by decide)))
  let written (operator : Operator) (left right : Operand Word) : Expression :=
    .link (.single left) operator right
  let sumWritten : Operand Word := .group (written .add nameX nameY)
  have squareSpelled :
      (written .multiply nameX nameX).text = "x*x".toList :=
    rfl
  have sumSpelled : (written .add nameX nameY).text = "x+y".toList := rfl
  have wholeSpelled :
      (written .multiply sumWritten sumWritten).text =
        "(x+y)*(x+y)".toList :=
    rfl
  have squareParses :
      Formula.parse .climbing ["x", "y"] "x*x" = .ok square :=
    parse_eq_formula squareSpelled (by decide)
  have sumParses : Formula.parse .climbing ["x", "y"] "x+y" = .ok sum :=
    parse_eq_formula sumSpelled (by decide)
  have wholeParses :
      Formula.parse .climbing ["x", "y"] "(x+y)*(x+y)" = .ok whole :=
    parse_eq_formula wholeSpelled (by decide)
  have inlined : inlineName "x" "x+y" "x*x" = "(x+y)*(x+y)" := by
    decide +kernel
  rcases parse_inlineName squareParses sumParses "x" with
    ⟨parsed, inlinedParses, value⟩
  rw [inlined, wholeParses] at inlinedParses
  cases inlinedParses
  exact
    ⟨squareParses, sumParses, wholeParses, fun x y => value [x, y] rfl⟩

end Formulary
