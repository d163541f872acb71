import Formulary.Proofs.Grammar.Textbook
import Formulary.Proofs.Parsing.Attachment

/-!
# Grouped chains

A chain is descending if its operators never get tighter from left to right,
and so in all of its groups.  Grouping makes every chain descending, in either
precedence mode, and has nothing to do in a chain that is descending already.
So a grouped chain can be written out with a pair of brackets around each
group: read again, in either mode, it is grouped as it was.
-/

namespace Formulary

section

variable {α : Type}

mutual

/-- The operators of the chain and of every group in it never get tighter from left to right. -/
def Chain.Descending : Chain α → Prop
  | .single operand => operand.Descending
  | .link before operator operand =>
      before.Descending ∧ before.AllBind operator.priority ∧
        operand.Descending

/-- The operators of every group in the operand never get tighter from left to right. -/
def Operand.Descending : Operand α → Prop
  | .atom _ => True
  | .group body => body.Descending

end

@[simp]
theorem Chain.descending_single
    (operand : Operand α) :
    Chain.Descending (.single operand) ↔ operand.Descending := by
  rw [Chain.Descending]

@[simp]
theorem Chain.descending_link
    (before : Chain α)
    (operator : Operator)
    (operand : Operand α) :
    Chain.Descending (.link before operator operand) ↔
      before.Descending ∧ before.AllBind operator.priority ∧
        operand.Descending := by
  rw [Chain.Descending]

@[simp]
theorem Operand.descending_atom
    (value : α) :
    Operand.Descending (.atom value) := by
  rw [Operand.Descending]
  trivial

@[simp]
theorem Operand.descending_group
    (body : Chain α) :
    Operand.Descending (.group body) ↔ body.Descending := by
  rw [Operand.Descending]

/-- No operator of the chain is looser than a priority if none of the list is. -/
theorem Chain.allBind_iff
    (priority : Nat)
    (chain : Chain α) :
    chain.AllBind priority ↔
      ∀ operator ∈ chain.operators, priority ≤ operator.priority := by
  induction chain with
  | single operand =>
      constructor
      · intro _ operator member
        exact absurd member List.not_mem_nil
      · intro _
        trivial
  | link before operator operand hypothesis =>
      rw [Chain.AllBind, hypothesis, Chain.operators_link]
      constructor
      · rintro ⟨onBefore, last⟩ other member
        rcases List.mem_append.1 member with inBefore | isLast
        · exact onBefore other inBefore
        · rw [List.mem_singleton.1 isLast]
          exact last
      · intro all
        constructor
        · intro other member
          exact all other (List.mem_append_left _ member)
        · exact all operator (List.mem_append_right _ (List.mem_singleton_self _))

/-- In a descending chain the last operator is the loosest one. -/
theorem Chain.Descending.allBind
    {chain : Chain α}
    {priority : Nat}
    (descending : chain.Descending)
    (last :
      ∀ before operator operand,
        chain = .link before operator operand → priority ≤ operator.priority) :
    chain.AllBind priority := by
  match chain, descending with
  | .single operand, _ => trivial
  | .link before operator operand, descending =>
      have binds := last before operator operand rfl
      rcases (Chain.descending_link _ _ _).1 descending with ⟨_, allBind, _⟩
      exact ⟨allBind.weaken binds, binds⟩

/-! ## Grouping makes chains descending -/

/-- The chains of a site are descending, and each outer one goes on with its loosest operator. -/
structure Site.Descending (site : Site α) : Prop where
  chain : site.chain.Descending
  outers :
    ∀ outer ∈ site.outers,
      outer.chain.Descending ∧ outer.chain.AllBind outer.operator.priority

/-- Closing a chain into the next outer one leaves descending chains. -/
theorem Site.Descending.closeNext
    {chain : Chain α}
    {outer : Outer α}
    {outers : List (Outer α)}
    (descending : Site.Descending ⟨chain, outer :: outers⟩) :
    Site.Descending ⟨outer.close chain, outers⟩ := by
  rcases descending.outers outer List.mem_cons_self with
    ⟨outerDescending, allBind⟩
  constructor
  · apply (Chain.descending_link _ _ _).2
    exact
      ⟨outerDescending, allBind,
        (Operand.descending_group _).2 descending.chain⟩
  · intro other member
    exact descending.outers other (List.mem_cons_of_mem _ member)

/-- Raising the last operand leaves descending chains. -/
theorem Site.Descending.raise
    {before : Chain α}
    {previous : Operator}
    {operand : Operand α}
    {outers : List (Outer α)}
    (descending :
      Site.Descending ⟨.link before previous operand, outers⟩) :
    Site.Descending ⟨.single operand, ⟨before, previous⟩ :: outers⟩ := by
  rcases (Chain.descending_link _ _ _).1 descending.chain with
    ⟨onBefore, allBind, onOperand⟩
  constructor
  · exact (Chain.descending_single _).2 onOperand
  · intro outer member
    rcases List.mem_cons.1 member with rfl | further
    · exact ⟨onBefore, allBind⟩
    · exact descending.outers outer further

/-- One more operator and operand lead to descending chains again. -/
theorem Site.Descending.extend
    {site : Site α}
    {operand : Operand α}
    (descending : site.Descending)
    (precedence : Precedence)
    (operator : Operator)
    (operandDescending : operand.Descending) :
    (site.extend precedence operator operand).Descending := by
  have attaches := attach_attaches precedence operator site
  have reached :=
    attaches.keeps Site.Descending.closeNext
      (fun _ => Site.Descending.raise) descending
  have allBind :
      (attach precedence operator site).site.chain.AllBind
        operator.priority :=
    reached.chain.allBind fun _ _ _ ends => attaches.binds ends
  exact
    ⟨(Chain.descending_link _ _ _).2
        ⟨reached.chain, allBind, operandDescending⟩,
      reached.outers⟩

theorem Site.Descending.close
    {site : Site α}
    (descending : site.Descending) :
    site.close.Descending :=
  (Site.close_keeps Site.Descending.closeNext descending).chain

end

section

variable {α β : Type}

mutual

/-- The site of a chain has descending chains. -/
theorem Chain.descending_site
    (precedence : Precedence)
    (meaning : α → β) :
    (chain : Chain α) → (chain.site precedence meaning).Descending
  | .single operand => by
      rw [Chain.site]
      constructor
      · exact
          (Chain.descending_single _).2
            (Operand.descending_arrange precedence meaning operand)
      · intro outer member
        exact absurd member List.not_mem_nil
  | .link before operator operand => by
      rw [Chain.site]
      exact
        (Chain.descending_site precedence meaning before).extend precedence
          operator (Operand.descending_arrange precedence meaning operand)

theorem Operand.descending_arrange
    (precedence : Precedence)
    (meaning : α → β) :
    (operand : Operand α) → (operand.arrange precedence meaning).Descending
  | .atom value => by
      rw [Operand.arrange]
      exact Operand.descending_atom _
  | .group body => by
      rw [Operand.arrange]
      apply (Operand.descending_group _).2
      exact (Chain.descending_site precedence meaning body).close

end

/-- Grouping makes chains descending, in either mode. -/
theorem Chain.descending_arrange
    (precedence : Precedence)
    (meaning : α → β)
    (chain : Chain α) :
    (chain.arrange precedence meaning).Descending :=
  (chain.descending_site precedence meaning).close

mutual

/-- Mapping keeps a chain descending. -/
theorem Chain.Descending.map
    (image : α → β) :
    {chain : Chain α} → chain.Descending → (chain.map image).Descending
  | .single operand, descending => by
      rw [Chain.map_single, Chain.descending_single]
      exact Operand.Descending.map image ((Chain.descending_single _).1 descending)
  | .link before operator operand, descending => by
      rcases (Chain.descending_link _ _ _).1 descending with
        ⟨onBefore, allBind, onOperand⟩
      rw [Chain.map_link, Chain.descending_link, Chain.allBind_iff, Chain.map,
        Chain.operators_substitute, ← Chain.allBind_iff]
      exact
        ⟨Chain.Descending.map image onBefore, allBind,
          Operand.Descending.map image onOperand⟩

theorem Operand.Descending.map
    (image : α → β) :
    {operand : Operand α} → operand.Descending → (operand.map image).Descending
  | .atom value, _ => by
      rw [Operand.map_atom]
      exact Operand.descending_atom _
  | .group body, descending => by
      rw [Operand.map_group, Operand.descending_group]
      exact Chain.Descending.map image ((Operand.descending_group _).1 descending)

end

/-! ## Descending chains stay as they are -/

/-- An operator that is no tighter than any other one of the chain is attached behind it. -/
theorem attach_of_allBind
    {precedence : Precedence}
    {operator : Operator}
    {chain : Chain α}
    (allBind : chain.AllBind operator.priority) :
    (attach precedence operator ⟨chain, []⟩).site = ⟨chain, []⟩ := by
  match chain, allBind with
  | .single operand, _ => rfl
  | .link before previous operand, ⟨_, binds⟩ =>
      simp only [attach, if_neg (Nat.not_lt_of_le binds), climb]
      split <;> rfl

mutual

/-- A descending chain is read without any regrouping. -/
theorem Chain.Descending.site_eq
    (precedence : Precedence)
    (meaning : α → β) :
    {chain : Chain α} →
    chain.Descending →
    chain.site precedence meaning = ⟨chain.map meaning, []⟩
  | .single operand, descending => by
      rw [Chain.site, Chain.map_single,
        Operand.Descending.arrange_eq precedence meaning
          ((Chain.descending_single _).1 descending)]
  | .link before operator operand, descending => by
      rcases (Chain.descending_link _ _ _).1 descending with
        ⟨onBefore, allBind, onOperand⟩
      have mapped : (before.map meaning).AllBind operator.priority := by
        rw [Chain.allBind_iff, Chain.map, Chain.operators_substitute,
          ← Chain.allBind_iff]
        exact allBind
      rw [Chain.site, Chain.map_link,
        Chain.Descending.site_eq precedence meaning onBefore,
        Operand.Descending.arrange_eq precedence meaning onOperand,
        Site.extend, attach_of_allBind mapped]

theorem Operand.Descending.arrange_eq
    (precedence : Precedence)
    (meaning : α → β) :
    {operand : Operand α} →
    operand.Descending →
    operand.arrange precedence meaning = operand.map meaning
  | .atom value, _ => by
      rw [Operand.arrange, Operand.map_atom]
  | .group body, descending => by
      rw [Operand.arrange, Operand.map_group,
        Chain.Descending.site_eq precedence meaning
          ((Operand.descending_group _).1 descending)]
      rfl

end

/-- Grouping has nothing to do in a descending chain. -/
theorem Chain.Descending.arrange_eq
    (precedence : Precedence)
    (meaning : α → β)
    {chain : Chain α}
    (descending : chain.Descending) :
    chain.arrange precedence meaning = chain.map meaning := by
  rw [Chain.arrange, descending.site_eq]
  rfl

/-- A grouped chain that is read again, in either mode and with other atoms, is grouped as it was. -/
theorem Chain.arrange_map_arrange
    {γ : Type}
    (precedence other : Precedence)
    (meaning : β → γ)
    (image : α → β)
    (chain : Chain α) :
    ((chain.arrange precedence id).map image).arrange other meaning =
      chain.arrange precedence (meaning ∘ image) := by
  rw [((chain.descending_arrange precedence id).map image).arrange_eq,
    Chain.map_map, ← Chain.arrange_eq_map]

end

end Formulary
