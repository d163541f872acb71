import Formulary.Proofs.Parsing.Attachment

/-!
# Reading a chain in order

A chain is read from left to right, going down into its groups: that gives its
atoms and operators in the order of its text, without brackets.  Grouping by
precedence moves operands into groups and never past each other, so it keeps
the reading.  `Chain.reading_arrange` says so of whole chains; it comes from
the same statement about each way to attach an operator.

The chains inside a chain are listed with each one behind those inside of it.
That is the order in which the brackets of a text close.
-/

namespace Formulary

/-- An atom or an operator: what is left of a text without its brackets. -/
inductive Lexeme (α : Type) where
  | atom (value : α)
  | operator (operator : Operator)
deriving DecidableEq

namespace Lexeme

variable {α β γ : Type}

/-- The lexeme with the image of its atom. -/
def map (image : α → β) : Lexeme α → Lexeme β
  | .atom value => .atom (image value)
  | .operator joining => .operator joining

/-- The atom, if the lexeme is one. -/
def atom? : Lexeme α → Option α
  | .atom value => some value
  | .operator _ => none

/-- The characters of a lexeme. -/
def spell (spelling : α → List Char) : Lexeme α → List Char
  | .atom value => spelling value
  | .operator joining => [joining.symbol]

@[simp]
theorem map_atom
    (image : α → β)
    (value : α) :
    (Lexeme.atom value).map image = .atom (image value) :=
  rfl

@[simp]
theorem map_operator
    (image : α → β)
    (joining : Operator) :
    (Lexeme.operator joining).map image = .operator joining :=
  rfl

/-- To map twice is to map once by both functions. -/
theorem map_map
    (image : α → β)
    (further : β → γ)
    (lexeme : Lexeme α) :
    (lexeme.map image).map further = lexeme.map (further ∘ image) := by
  cases lexeme with
  | atom value => rfl
  | operator joining => rfl

end Lexeme

/-! ## Readings -/

section

variable {α : Type}

mutual

/-- The atoms and operators of a chain from left to right, those of groups included. -/
def Chain.reading : Chain α → List (Lexeme α)
  | .single operand => operand.reading
  | .link before operator operand =>
      before.reading ++ .operator operator :: operand.reading

/-- The atoms and operators of an operand from left to right. -/
def Operand.reading : Operand α → List (Lexeme α)
  | .atom value => [.atom value]
  | .group body => body.reading

end

@[simp]
theorem Chain.reading_single
    (operand : Operand α) :
    Chain.reading (.single operand) = operand.reading := by
  rw [Chain.reading]

@[simp]
theorem Chain.reading_link
    (before : Chain α)
    (operator : Operator)
    (operand : Operand α) :
    Chain.reading (.link before operator operand) =
      before.reading ++ .operator operator :: operand.reading := by
  rw [Chain.reading]

@[simp]
theorem Operand.reading_atom
    (value : α) :
    Operand.reading (.atom value) = [.atom value] := by
  rw [Operand.reading]

@[simp]
theorem Operand.reading_group
    (body : Chain α) :
    Operand.reading (.group body) = body.reading := by
  rw [Operand.reading]

mutual

/-- The atoms of a chain are those of its reading. -/
theorem Chain.atoms_eq_reading :
    (chain : Chain α) → chain.atoms = chain.reading.filterMap Lexeme.atom?
  | .single operand => by
      rw [Chain.atoms, Chain.reading_single, Operand.atoms_eq_reading operand]
  | .link before operator operand => by
      rw [Chain.atoms, Chain.reading_link, List.filterMap_append,
        Chain.atoms_eq_reading before, Operand.atoms_eq_reading operand]
      rfl

theorem Operand.atoms_eq_reading :
    (operand : Operand α) →
    operand.atoms = operand.reading.filterMap Lexeme.atom?
  | .atom value => by
      rw [Operand.atoms, Operand.reading_atom]
      rfl
  | .group body => by
      rw [Operand.atoms, Operand.reading_group, Chain.atoms_eq_reading body]

end

/-! ## The chains inside a chain -/

mutual

/-- The chains inside the groups of a chain at any depth, each behind those inside of it. -/
def Chain.inner : Chain α → List (Chain α)
  | .single operand => operand.inner
  | .link before _ operand => before.inner ++ operand.inner

/-- The chains inside an operand at any depth. -/
def Operand.inner : Operand α → List (Chain α)
  | .atom _ => []
  | .group body => body.inner ++ [body]

end

/-! ## The reading of a site -/

/-- The atoms and operators of an outer chain and of the operator that it waits behind. -/
def Outer.reading (outer : Outer α) : List (Lexeme α) :=
  outer.chain.reading ++ [.operator outer.operator]

/-- The atoms and operators of a site: those of its outer chains, the outermost first, and of the chain at hand. -/
def Site.reading (site : Site α) : List (Lexeme α) :=
  site.outers.reverse.flatMap Outer.reading ++ site.chain.reading

@[simp]
theorem Site.reading_nil
    (chain : Chain α) :
    Site.reading ⟨chain, []⟩ = chain.reading :=
  rfl

/-- Closing a chain into the next outer one keeps the reading. -/
theorem Site.reading_closeNext
    (chain : Chain α)
    (outer : Outer α)
    (outers : List (Outer α)) :
    Site.reading ⟨outer.close chain, outers⟩ =
      Site.reading ⟨chain, outer :: outers⟩ := by
  simp only [Site.reading, Outer.close, Chain.reading_link,
    Operand.reading_group, List.reverse_cons, List.flatMap_append,
    List.flatMap_singleton, Outer.reading, List.append_assoc,
    List.singleton_append]

theorem Site.reading_close
    (site : Site α) :
    site.close.reading = site.reading := by
  rcases site with ⟨chain, outers⟩
  rw [Site.close]
  induction outers generalizing chain with
  | nil => rfl
  | cons outer outers hypothesis =>
      rw [← Site.reading_closeNext]
      exact hypothesis (outer.close chain)

/-- However an operator is attached, nothing is lost, added or moved. -/
theorem Attaches.reading_eq
    {operator : Operator}
    {site reached : Site α}
    (attaches : Attaches operator site reached) :
    reached.reading = site.reading := by
  apply attaches.keeps
  · intro chain outer outers same
    exact (Site.reading_closeNext chain outer outers).trans same
  · intro before previous operand outers _ same
    rw [← same, ← Site.reading_closeNext, Site.reading, Site.reading,
      Outer.close, Chain.reading_link, Chain.reading_link,
      Operand.reading_group, Chain.reading_single]
  · rfl

/-- One more operator and operand come behind everything that was read. -/
theorem Site.reading_extend
    (precedence : Precedence)
    (site : Site α)
    (operator : Operator)
    (operand : Operand α) :
    (site.extend precedence operator operand).reading =
      site.reading ++ .operator operator :: operand.reading := by
  rw [← (attach_attaches precedence operator site).reading_eq, Site.extend,
    Site.reading, Site.reading, Chain.reading_link, List.append_assoc]

end

/-! ## Grouping keeps the reading -/

section

variable {α β : Type}

mutual

/-- The site of a chain is read as the chain is, with the meaning of its atoms. -/
theorem Chain.reading_site
    (precedence : Precedence)
    (meaning : α → β) :
    (chain : Chain α) →
    (chain.site precedence meaning).reading =
      chain.reading.map (Lexeme.map meaning)
  | .single operand => by
      rw [Chain.site, Site.reading_nil, Chain.reading_single,
        Chain.reading_single,
        Operand.reading_arrange precedence meaning operand]
  | .link before operator operand => by
      rw [Chain.site, Site.reading_extend, Chain.reading_link,
        List.map_append, List.map_cons, Lexeme.map_operator,
        Chain.reading_site precedence meaning before,
        Operand.reading_arrange precedence meaning operand]

theorem Operand.reading_arrange
    (precedence : Precedence)
    (meaning : α → β) :
    (operand : Operand α) →
    (operand.arrange precedence meaning).reading =
      operand.reading.map (Lexeme.map meaning)
  | .atom value => by
      rw [Operand.arrange, Operand.reading_atom, Operand.reading_atom,
        List.map_singleton, Lexeme.map_atom]
  | .group body => by
      rw [Operand.arrange, Operand.reading_group, Operand.reading_group,
        Site.reading_close, Chain.reading_site precedence meaning body]

end

/-- Grouping keeps the reading of a chain, with the meaning of its atoms. -/
theorem Chain.reading_arrange
    (precedence : Precedence)
    (meaning : α → β)
    (chain : Chain α) :
    (chain.arrange precedence meaning).reading =
      chain.reading.map (Lexeme.map meaning) := by
  rw [Chain.arrange, Site.reading_close, Chain.reading_site]

/-- Grouping keeps the atoms of a chain, with their meaning. -/
theorem Chain.atoms_arrange
    (precedence : Precedence)
    (meaning : α → β)
    (chain : Chain α) :
    (chain.arrange precedence meaning).atoms = chain.atoms.map meaning := by
  rw [Chain.atoms_eq_reading, Chain.atoms_eq_reading, Chain.reading_arrange,
    List.filterMap_map, List.map_filterMap]
  congr 1
  funext lexeme
  cases lexeme with
  | atom value => rfl
  | operator operator => rfl

end

end Formulary
