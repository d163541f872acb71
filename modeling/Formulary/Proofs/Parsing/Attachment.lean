import Formulary.Proofs.Formula.Mapping

/-!
# What attaching an operator does

An operator finds its place in a site in one of four ways: it stays where it
is, behind a single operand or behind an operator that binds no less tightly;
it raises the last operand; or it closes chains into outer ones that bind no
less tightly.  `Attaches` lists them, and `attach_attaches` says that there is
no other one in either precedence mode.  So what closing a chain and raising an
operand keep holds of every site: `Attaches.keeps`.

The last section carries grouping through functions on atoms: a chain can be
grouped first and get its meaning afterwards.
-/

namespace Formulary

section

variable {α : Type} {precedence : Precedence}

/-- Outer chains wait behind looser operators the further out they are. -/
def Loosening (outers : List (Outer α)) : Prop :=
  outers.Pairwise fun inner outer =>
    outer.operator.priority < inner.operator.priority

/-- Chains are closed into one or more outer ones that bind no less tightly than a priority. -/
inductive Closes (priority : Nat) : Site α → Site α → Prop where
  | last
      {chain : Chain α}
      {outer : Outer α}
      {outers : List (Outer α)}
      (binds : priority ≤ outer.operator.priority) :
      Closes priority ⟨chain, outer :: outers⟩ ⟨outer.close chain, outers⟩
  | further
      {chain : Chain α}
      {outer : Outer α}
      {outers : List (Outer α)}
      {reached : Site α}
      (binds : priority ≤ outer.operator.priority)
      (closes : Closes priority ⟨outer.close chain, outers⟩ reached) :
      Closes priority ⟨chain, outer :: outers⟩ reached

/-- The site at which an operator is attached to a complete chain among its outer chains. -/
inductive Attaches (operator : Operator) : Site α → Site α → Prop where
  | single
      {operand : Operand α}
      {outers : List (Outer α)} :
      Attaches operator ⟨.single operand, outers⟩ ⟨.single operand, outers⟩
  | raises
      {before : Chain α}
      {previous : Operator}
      {operand : Operand α}
      {outers : List (Outer α)}
      (tighter : previous.priority < operator.priority) :
      Attaches operator ⟨.link before previous operand, outers⟩
        ⟨.single operand, ⟨before, previous⟩ :: outers⟩
  | stays
      {before : Chain α}
      {previous : Operator}
      {operand : Operand α}
      {outers : List (Outer α)}
      (binds : operator.priority ≤ previous.priority) :
      Attaches operator ⟨.link before previous operand, outers⟩
        ⟨.link before previous operand, outers⟩
  | closes
      {before : Chain α}
      {previous : Operator}
      {operand : Operand α}
      {outers : List (Outer α)}
      {reached : Site α}
      (looser : operator.priority < previous.priority)
      (closed :
        Closes operator.priority ⟨.link before previous operand, outers⟩
          reached) :
      Attaches operator ⟨.link before previous operand, outers⟩ reached

section

variable {priority : Nat} {chain : Chain α}
variable {outer : Outer α} {outers : List (Outer α)}

theorem climb_of_tighter
    (tighter : outer.operator.priority < priority) :
    climb precedence priority chain (outer :: outers) = none := by
  rw [climb, if_neg (Nat.not_le_of_lt tighter)]

theorem climb_singleLevel
    (binds : priority ≤ outer.operator.priority) :
    climb .singleLevel priority chain (outer :: outers) =
      some ⟨outer.close chain, outers⟩ := by
  rw [climb, if_pos binds]

theorem climb_climbing
    (binds : priority ≤ outer.operator.priority) :
    climb .climbing priority chain (outer :: outers) =
      some
        ((climb .climbing priority (outer.close chain) outers).getD
          ⟨outer.close chain, outers⟩) := by
  rw [climb, if_pos binds]

end

/-- Climbing reaches no chain only if every outer one waits behind a looser operator. -/
theorem climb_eq_none_iff
    {outers : List (Outer α)}
    (loosening : Loosening outers)
    (priority : Nat)
    (chain : Chain α) :
    climb .climbing priority chain outers = none ↔
      ∀ outer ∈ outers, outer.operator.priority < priority := by
  cases outers with
  | nil => exact ⟨fun _ _ member => absurd member List.not_mem_nil, fun _ => rfl⟩
  | cons outer outers =>
      rcases Nat.lt_or_ge outer.operator.priority priority with looser | binds
      · rw [climb_of_tighter looser]
        refine ⟨fun _ => ?_, fun _ => rfl⟩
        intro other member
        rcases List.mem_cons.1 member with rfl | further
        · exact looser
        · exact Nat.lt_trans (List.rel_of_pairwise_cons loosening further) looser
      · rw [climb_climbing binds]
        refine ⟨nofun, ?_⟩
        intro looser
        exact absurd (looser outer List.mem_cons_self) (Nat.not_lt_of_le binds)

/-- Climbing closes chains into outer ones. -/
theorem closes_of_climb
    {priority : Nat}
    {chain : Chain α}
    {outers : List (Outer α)}
    {reached : Site α}
    (climbed : climb precedence priority chain outers = some reached) :
    Closes priority ⟨chain, outers⟩ reached := by
  induction outers generalizing chain with
  | nil => cases climbed
  | cons outer outers hypothesis =>
      rcases Nat.lt_or_ge outer.operator.priority priority with
        tighter | binds
      · rw [climb_of_tighter tighter] at climbed
        cases climbed
      · cases precedence with
        | singleLevel =>
            rw [climb_singleLevel binds] at climbed
            cases climbed
            exact .last binds
        | climbing =>
            rw [climb_climbing binds] at climbed
            cases higher : climb .climbing priority (outer.close chain) outers with
            | none =>
                rw [higher] at climbed
                cases climbed
                exact .last binds
            | some site =>
                rw [higher] at climbed
                cases climbed
                exact .further binds (hypothesis higher)

/-- An operator is attached in one of the ways that `Attaches` lists. -/
theorem attach_attaches
    (precedence : Precedence)
    (operator : Operator)
    (site : Site α) :
    Attaches operator site (attach precedence operator site).site := by
  rcases site with ⟨chain, outers⟩
  cases chain with
  | single operand => exact .single
  | link before previous operand =>
      simp only [attach]
      split
      · rename_i tighter
        exact .raises tighter
      · rename_i notTighter
        split
        · rename_i looser
          split
          · rename_i reached climbed
            exact .closes looser (closes_of_climb climbed)
          · exact .stays (Nat.le_of_lt looser)
        · exact .stays (Nat.le_of_not_lt notTighter)

/-- A chain into which another one was closed ends in a group behind an operator that binds. -/
theorem Closes.exists_link
    {priority : Nat}
    {site reached : Site α}
    (closes : Closes priority site reached) :
    ∃ before operator operand,
      reached.chain = .link before operator operand ∧
        priority ≤ operator.priority := by
  induction closes with
  | last binds => exact ⟨_, _, _, rfl, binds⟩
  | further _ _ hypothesis => exact hypothesis

/-- The operator is attached behind an operator that binds no less tightly, if behind any. -/
theorem Attaches.binds
    {operator previous : Operator}
    {site reached : Site α}
    {before : Chain α}
    {operand : Operand α}
    (attaches : Attaches operator site reached)
    (ends : reached.chain = .link before previous operand) :
    operator.priority ≤ previous.priority := by
  cases attaches with
  | single => cases ends
  | raises _ => cases ends
  | stays binds =>
      cases ends
      exact binds
  | closes _ closed =>
      rcases closed.exists_link with ⟨_, _, _, link, binds⟩
      rw [link] at ends
      cases ends
      exact binds

/-! ## What sites keep -/

section

variable {property : Site α → Prop}
variable
  (closeNext :
    ∀ {chain : Chain α} {outer : Outer α} {outers : List (Outer α)},
      property ⟨chain, outer :: outers⟩ → property ⟨outer.close chain, outers⟩)

include closeNext

/-- What closing a chain into the next outer one keeps, closing all of them keeps. -/
theorem Site.close_keeps
    {site : Site α}
    (holds : property site) :
    property ⟨site.close, []⟩ := by
  rcases site with ⟨chain, outers⟩
  rw [Site.close]
  induction outers generalizing chain with
  | nil => exact holds
  | cons outer outers hypothesis => exact hypothesis _ (closeNext holds)

/-- What closing a chain into the next outer one keeps, closing some of them keeps. -/
theorem Closes.keeps
    {priority : Nat}
    {site reached : Site α}
    (closes : Closes priority site reached)
    (holds : property site) :
    property reached := by
  induction closes with
  | last _ => exact closeNext holds
  | further _ _ hypothesis => exact hypothesis (closeNext holds)

/-- What closing chains and raising the last operand keep, attaching an operator keeps. -/
theorem Attaches.keeps
    {operator : Operator}
    (raise :
      ∀ {before : Chain α} {previous : Operator} {operand : Operand α}
        {outers : List (Outer α)},
        previous.priority < operator.priority →
          property ⟨.link before previous operand, outers⟩ →
            property ⟨.single operand, ⟨before, previous⟩ :: outers⟩)
    {site reached : Site α}
    (attaches : Attaches operator site reached)
    (holds : property site) :
    property reached := by
  cases attaches with
  | single => exact holds
  | raises tighter => exact raise tighter holds
  | stays _ => exact holds
  | closes _ closed => exact closed.keeps closeNext holds

end

end

/-! ## Grouping and meaning -/

section

variable {α β γ : Type}

mutual

/-- A function on the meanings of atoms can be applied before grouping or after it. -/
theorem Chain.site_map
    (precedence : Precedence)
    (meaning : α → β)
    (image : β → γ) :
    (chain : Chain α) →
    (chain.site precedence meaning).substitute
        (fun value => .atom (image value)) =
      chain.site precedence (image ∘ meaning)
  | .single operand => by
      rw [Chain.site, Chain.site, Site.substitute, Chain.substitute_single,
        ← Operand.map, Operand.arrange_map precedence meaning image operand,
        List.map_nil]
  | .link before operator operand => by
      rw [Chain.site, Chain.site, ← Site.extend_substitute, ← Operand.map,
        Chain.site_map precedence meaning image before,
        Operand.arrange_map precedence meaning image operand]

theorem Operand.arrange_map
    (precedence : Precedence)
    (meaning : α → β)
    (image : β → γ) :
    (operand : Operand α) →
    (operand.arrange precedence meaning).map image =
      operand.arrange precedence (image ∘ meaning)
  | .atom value => by
      rw [Operand.arrange, Operand.arrange, Operand.map_atom,
        Function.comp_apply]
  | .group body => by
      rw [Operand.arrange, Operand.arrange, Operand.map_group, Chain.map,
        ← Site.close_substitute, Chain.site_map precedence meaning image body]

end

/-- A function on the meanings of atoms can be applied before grouping or after it. -/
theorem Chain.arrange_map
    (precedence : Precedence)
    (meaning : α → β)
    (image : β → γ)
    (chain : Chain α) :
    (chain.arrange precedence meaning).map image =
      chain.arrange precedence (image ∘ meaning) := by
  rw [Chain.arrange, Chain.arrange, Chain.map, ← Site.close_substitute,
    Chain.site_map]

/-- A chain can be grouped first and get its meaning afterwards. -/
theorem Chain.arrange_eq_map
    (precedence : Precedence)
    (meaning : α → β)
    (chain : Chain α) :
    chain.arrange precedence meaning =
      (chain.arrange precedence id).map meaning := by
  rw [Chain.arrange_map, Function.comp_id]

end

end Formulary
