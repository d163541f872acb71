import Formulary.Proofs.Parsing.Grouping

/-!
# Mapping the atoms of a chain

`Chain.map` puts the image of every atom in its place.  Mapping is
substitution of atoms for atoms; it keeps the operators and the shape of a
chain.  Two substitutions agree on a chain exactly if they agree on the atoms
that occur in it.
-/

namespace Formulary

variable {α β γ : Type}

namespace Chain

/-- The chain with the image of every atom in its place. -/
def map (image : α → β) (chain : Chain α) : Chain β :=
  chain.substitute fun value => .atom (image value)

end Chain

/-- The operand with the image of every atom in its place. -/
def Operand.map (image : α → β) (operand : Operand α) : Operand β :=
  operand.substitute fun value => .atom (image value)

@[simp]
theorem Chain.map_single
    (image : α → β)
    (operand : Operand α) :
    Chain.map image (.single operand) = .single (operand.map image) := by
  rw [Chain.map, Chain.substitute_single, Operand.map]

@[simp]
theorem Chain.map_link
    (image : α → β)
    (before : Chain α)
    (operator : Operator)
    (operand : Operand α) :
    Chain.map image (.link before operator operand) =
      .link (before.map image) operator (operand.map image) := by
  rw [Chain.map, Chain.substitute_link, Chain.map, Operand.map]

@[simp]
theorem Operand.map_atom
    (image : α → β)
    (value : α) :
    Operand.map image (.atom value) = .atom (image value) := by
  rw [Operand.map, Operand.substitute_atom]

@[simp]
theorem Operand.map_group
    (image : α → β)
    (body : Chain α) :
    Operand.map image (.group body) = .group (body.map image) := by
  rw [Operand.map, Operand.substitute_group, Chain.map]

mutual

/-- To map and then to substitute is one substitution. -/
theorem Chain.substitute_map
    (image : α → β)
    (replacement : β → Operand γ) :
    (chain : Chain α) →
    (chain.map image).substitute replacement =
      chain.substitute (replacement ∘ image)
  | .single operand => by
      rw [Chain.map_single, Chain.substitute_single, Chain.substitute_single,
        Operand.substitute_map image replacement operand]
  | .link before operator operand => by
      rw [Chain.map_link, Chain.substitute_link, Chain.substitute_link,
        Chain.substitute_map image replacement before,
        Operand.substitute_map image replacement operand]

/-- To map and then to substitute is one substitution, in an operand. -/
theorem Operand.substitute_map
    (image : α → β)
    (replacement : β → Operand γ) :
    (operand : Operand α) →
    (operand.map image).substitute replacement =
      operand.substitute (replacement ∘ image)
  | .atom value => by
      rw [Operand.map_atom, Operand.substitute_atom, Operand.substitute_atom,
        Function.comp_apply]
  | .group body => by
      rw [Operand.map_group, Operand.substitute_group,
        Operand.substitute_group, Chain.substitute_map image replacement body]

end

mutual

/-- A chain with each atom in its own place is the chain. -/
theorem Chain.substitute_self :
    (chain : Chain α) → chain.substitute Operand.atom = chain
  | .single operand => by
      rw [Chain.substitute_single, Operand.substitute_self operand]
  | .link before operator operand => by
      rw [Chain.substitute_link, Chain.substitute_self before,
        Operand.substitute_self operand]

theorem Operand.substitute_self :
    (operand : Operand α) → operand.substitute Operand.atom = operand
  | .atom value => Operand.substitute_atom Operand.atom value
  | .group body => by
      rw [Operand.substitute_group, Chain.substitute_self body]

end

/-- To map every atom to itself changes nothing. -/
@[simp]
theorem Chain.map_id
    (chain : Chain α) :
    chain.map id = chain :=
  chain.substitute_self

/-- To map twice is to map once by both functions. -/
@[simp]
theorem Chain.map_map
    (image : α → β)
    (further : β → γ)
    (chain : Chain α) :
    (chain.map image).map further = chain.map (further ∘ image) :=
  chain.substitute_map image _

/-! ## What mapping keeps -/

@[simp]
theorem Chain.operators_single
    (operand : Operand α) :
    Chain.operators (.single operand) = [] :=
  rfl

theorem Chain.operatorsBefore_eq
    (chain : Chain α)
    (collected : List Operator) :
    chain.operatorsBefore collected = chain.operators ++ collected := by
  induction chain generalizing collected with
  | single operand => rfl
  | link before operator operand hypothesis =>
      rw [Chain.operators, Chain.operatorsBefore, Chain.operatorsBefore,
        hypothesis, hypothesis [operator], List.append_assoc]
      rfl

@[simp]
theorem Chain.operators_link
    (before : Chain α)
    (operator : Operator)
    (operand : Operand α) :
    Chain.operators (.link before operator operand) =
      before.operators ++ [operator] := by
  rw [Chain.operators, Chain.operatorsBefore, Chain.operatorsBefore_eq]

theorem Chain.operandsBefore_eq
    (chain : Chain α)
    (collected : List (Operand α)) :
    chain.operandsBefore collected = chain.operands ++ collected := by
  induction chain generalizing collected with
  | single operand => rfl
  | link before operator operand hypothesis =>
      rw [Chain.operands, Chain.operandsBefore, Chain.operandsBefore,
        hypothesis, hypothesis [operand], List.append_assoc]
      rfl

@[simp]
theorem Chain.operands_link
    (before : Chain α)
    (operator : Operator)
    (operand : Operand α) :
    Chain.operands (.link before operator operand) =
      before.operands ++ [operand] := by
  rw [Chain.operands, Chain.operandsBefore, Chain.operandsBefore_eq]

/-- A chain has one operator fewer than operands. -/
theorem Chain.length_operands
    (chain : Chain α) :
    chain.operands.length = chain.operators.length + 1 := by
  induction chain with
  | single operand => rfl
  | link before operator operand hypothesis =>
      rw [Chain.operands_link, Chain.operators_link, List.length_append,
        List.length_append, hypothesis, List.length_singleton,
        List.length_singleton]

/-- Substitution keeps the operators of a chain. -/
@[simp]
theorem Chain.operators_substitute
    (replacement : α → Operand β)
    (chain : Chain α) :
    (chain.substitute replacement).operators = chain.operators := by
  induction chain with
  | single operand =>
      rw [Chain.substitute_single]
      rfl
  | link before operator operand hypothesis =>
      rw [Chain.substitute_link, Chain.operators_link, Chain.operators_link,
        hypothesis]

mutual

/-- The atoms of a mapped chain are the images of its atoms. -/
theorem Chain.atoms_map
    (image : α → β) :
    (chain : Chain α) → (chain.map image).atoms = chain.atoms.map image
  | .single operand => by
      rw [Chain.map_single, Chain.atoms, Chain.atoms,
        Operand.atoms_map image operand]
  | .link before operator operand => by
      rw [Chain.map_link, Chain.atoms, Chain.atoms, List.map_append,
        Chain.atoms_map image before, Operand.atoms_map image operand]

/-- The atoms of a mapped operand are the images of its atoms. -/
theorem Operand.atoms_map
    (image : α → β) :
    (operand : Operand α) → (operand.map image).atoms = operand.atoms.map image
  | .atom value => by
      rw [Operand.map_atom, Operand.atoms, Operand.atoms, List.map_singleton]
  | .group body => by
      rw [Operand.map_group, Operand.atoms, Operand.atoms,
        Chain.atoms_map image body]

end

/-! ## Substitutions that agree -/

mutual

/-- Two substitutions agree on a chain if they agree on its atoms. -/
theorem Chain.substitute_eq_iff
    {left right : α → Operand β} :
    (chain : Chain α) →
    (chain.substitute left = chain.substitute right ↔
      ∀ value ∈ chain.atoms, left value = right value)
  | .single operand => by
      rw [Chain.substitute_single, Chain.substitute_single,
        Chain.single.injEq, Chain.atoms]
      exact Operand.substitute_eq_iff operand
  | .link before operator operand => by
      rw [Chain.substitute_link, Chain.substitute_link, Chain.link.injEq,
        Chain.substitute_eq_iff before, Operand.substitute_eq_iff operand,
        Chain.atoms]
      constructor
      · rintro ⟨sameBefore, _, sameOperand⟩ value member
        rcases List.mem_append.1 member with inBefore | inOperand
        · exact sameBefore value inBefore
        · exact sameOperand value inOperand
      · intro same
        refine ⟨?_, rfl, ?_⟩
        · intro value member
          exact same value (List.mem_append_left _ member)
        · intro value member
          exact same value (List.mem_append_right _ member)

/-- Two substitutions agree on an operand if they agree on its atoms. -/
theorem Operand.substitute_eq_iff
    {left right : α → Operand β} :
    (operand : Operand α) →
    (operand.substitute left = operand.substitute right ↔
      ∀ value ∈ operand.atoms, left value = right value)
  | .atom value => by
      rw [Operand.substitute_atom, Operand.substitute_atom, Operand.atoms]
      constructor
      · intro same other member
        rw [List.mem_singleton.1 member]
        exact same
      · intro same
        exact same value (List.mem_singleton_self value)
  | .group body => by
      rw [Operand.substitute_group, Operand.substitute_group,
        Operand.group.injEq, Operand.atoms]
      exact Chain.substitute_eq_iff body

end

/-! ## Spelling -/

mutual

/-- A mapped chain is spelled as the chain is with the spelling of images. -/
theorem Chain.spell_map
    (image : α → β)
    (spelling : β → List Char) :
    (chain : Chain α) →
    (chain.map image).spell spelling = chain.spell (spelling ∘ image)
  | .single operand => by
      rw [Chain.map_single, Chain.spell, Chain.spell,
        Operand.spell_map image spelling operand]
  | .link before operator operand => by
      rw [Chain.map_link, Chain.spell, Chain.spell,
        Chain.spell_map image spelling before,
        Operand.spell_map image spelling operand]

/-- A mapped operand is spelled as the operand is with the spelling of images. -/
theorem Operand.spell_map
    (image : α → β)
    (spelling : β → List Char) :
    (operand : Operand α) →
    (operand.map image).spell spelling = operand.spell (spelling ∘ image)
  | .atom value => by
      rw [Operand.map_atom, Operand.spell, Operand.spell, Function.comp_apply]
  | .group body => by
      rw [Operand.map_group, Operand.spell, Operand.spell,
        Chain.spell_map image spelling body]

end

mutual

/-- Spellings that agree on the atoms of a chain spell it alike. -/
theorem Chain.spell_congr
    {left right : α → List Char} :
    (chain : Chain α) →
    (∀ value ∈ chain.atoms, left value = right value) →
    chain.spell left = chain.spell right
  | .single operand, same => by
      rw [Chain.spell, Chain.spell, Operand.spell_congr operand same]
  | .link before operator operand, same => by
      rw [Chain.atoms] at same
      rw [Chain.spell, Chain.spell,
        Chain.spell_congr before fun value member =>
          same value (List.mem_append_left _ member),
        Operand.spell_congr operand fun value member =>
          same value (List.mem_append_right _ member)]

/-- Spellings that agree on the atoms of an operand spell it alike. -/
theorem Operand.spell_congr
    {left right : α → List Char} :
    (operand : Operand α) →
    (∀ value ∈ operand.atoms, left value = right value) →
    operand.spell left = operand.spell right
  | .atom value, same => by
      rw [Operand.spell, Operand.spell]
      exact same value (List.mem_singleton_self value)
  | .group body, same => by
      rw [Operand.spell, Operand.spell, Chain.spell_congr body same]

end

end Formulary
