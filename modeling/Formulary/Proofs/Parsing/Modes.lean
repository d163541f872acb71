import Formulary.Proofs.Formula.Equality
import Formulary.Proofs.Formula.Reading
import Formulary.Proofs.Grammar.Levels
import Formulary.Proofs.Parsing.Crossing
import Formulary.Proofs.Parsing.Soundness

/-!
# Where the precedence modes part

In a level that does not cross, the modes build one and the same site.  In one
that does, the mode that closes one chain at most leaves an additive operator
in a group, and climbing leaves none: so the grouped levels differ in the
number of additive operators outside of groups.

The modes group a level without looking into its operands.  `Chain.flat` has
the operands of a level for atoms, so that levels and what is inside of them
can be compared one by one.

`parse_modes_agree_iff` says that both modes give equal formulas if and only if
no bracket level of the text crosses.
-/

namespace Formulary

section

variable {α β : Type}

/-! ## Operators outside of groups -/

/-- Closing looks at the operators of the chain at hand only. -/
theorem Site.operators_close_congr
    {chain other : Chain α}
    (same : chain.operators = other.operators)
    (outers : List (Outer α)) :
    (Site.close ⟨chain, outers⟩).operators =
      (Site.close ⟨other, outers⟩).operators := by
  cases outers with
  | nil => exact same
  | cons outer outers =>
      show
        (Site.close ⟨outer.close chain, outers⟩).operators =
          (Site.close ⟨outer.close other, outers⟩).operators
      apply Site.operators_close_congr
      rw [Outer.close, Outer.close, Chain.operators_link, Chain.operators_link]

/-- However an operator is attached, the operators outside of groups are kept. -/
theorem Attaches.operators_close
    {operator : Operator}
    {site reached : Site α}
    (attaches : Attaches operator site reached) :
    reached.close.operators = site.close.operators := by
  apply attaches.keeps
  · intro chain outer outers same
    exact same
  · intro before previous operand outers _ same
    rw [← same]
    show
      (Site.close ⟨Outer.close ⟨before, previous⟩ (.single operand),
        outers⟩).operators = _
    apply Site.operators_close_congr
    rw [Outer.close, Chain.operators_link, Chain.operators_link]
  · rfl

section

variable {precedence : Precedence} {operator : Operator} {site : Site α}

/-- An operator that is attached to the outermost chain stands outside of groups. -/
theorem Site.operators_close_extend_outermost
    (outermost : (attach precedence operator site).site.outers = [])
    (operand : Operand α) :
    (site.extend precedence operator operand).close.operators =
      site.close.operators ++ [operator] := by
  rw [← (attach_attaches precedence operator site).operators_close]
  generalize attached : (attach precedence operator site).site = reached
  rw [attached] at outermost
  rw [Site.extend, attached, Site.close, Site.close, outermost]
  exact Chain.operators_link _ _ _

/-- An operator that is attached to an inner chain stands in a group. -/
theorem Site.operators_close_extend_inner
    (inner : (attach precedence operator site).site.outers ≠ [])
    (operand : Operand α) :
    (site.extend precedence operator operand).close.operators =
      site.close.operators := by
  rw [← (attach_attaches precedence operator site).operators_close, Site.extend]
  generalize (attach precedence operator site).site = reached at inner
  rcases reached with ⟨chain, _ | ⟨outer, outers⟩⟩
  · exact absurd rfl inner
  · show
      (Site.close ⟨outer.close (.link chain operator operand),
          outers⟩).operators =
        (Site.close ⟨outer.close chain, outers⟩).operators
    apply Site.operators_close_congr
    rw [Outer.close, Outer.close, Chain.operators_link, Chain.operators_link]

end

/-! ## Additive operators outside of groups -/

/-- How many of the operators are additive. -/
def additiveCount (operators : List Operator) : Nat :=
  operators.countP fun operator => operator.priority == 0

theorem additiveCount_append
    (operators : List Operator)
    (last : Operator) :
    additiveCount (operators ++ [last]) =
      additiveCount operators + if last.priority = 0 then 1 else 0 := by
  simp only [additiveCount, List.countP_append, List.countP_singleton,
    beq_iff_eq]

/-- An operator is added outside of groups at most once. -/
theorem Site.additiveCount_extend_le
    (precedence : Precedence)
    (operator : Operator)
    (site : Site α)
    (operand : Operand α) :
    additiveCount (site.extend precedence operator operand).close.operators ≤
      additiveCount site.close.operators +
        if operator.priority = 0 then 1 else 0 := by
  cases position : (attach precedence operator site).site.outers with
  | nil =>
      apply Nat.le_of_eq
      rw [Site.operators_close_extend_outermost position,
        additiveCount_append]
  | cons outer outers =>
      rw [Site.operators_close_extend_inner]
      · exact Nat.le_add_right _ _
      · rw [position]
        exact List.cons_ne_nil _ _

/-- Neither mode has more additive operators outside of groups than the level has. -/
theorem Chain.additiveCount_site_le
    (precedence : Precedence)
    (meaning : α → β)
    (chain : Chain α) :
    additiveCount (chain.site precedence meaning).close.operators ≤
      additiveCount chain.operators := by
  induction chain with
  | single operand =>
      rw [Chain.site]
      exact Nat.le_refl _
  | link before operator operand hypothesis =>
      rw [Chain.site, Chain.operators_link, additiveCount_append]
      apply Nat.le_trans (Site.additiveCount_extend_le _ _ _ _)
      exact Nat.add_le_add_right hypothesis _

/-! ## A level with its operands as atoms -/

/-- The chain with its operands as atoms. -/
def Chain.flat : Chain α → Chain (Operand α)
  | .single operand => .single (.atom operand)
  | .link before operator operand => .link before.flat operator (.atom operand)

theorem Chain.operators_flat
    (chain : Chain α) :
    chain.flat.operators = chain.operators := by
  induction chain with
  | single operand => rfl
  | link before operator operand hypothesis =>
      rw [Chain.flat, Chain.operators_link, Chain.operators_link, hypothesis]

theorem Chain.atoms_flat
    (chain : Chain α) :
    chain.flat.atoms = chain.operands := by
  induction chain with
  | single operand =>
      rw [Chain.flat, Chain.atoms, Operand.atoms]
      rfl
  | link before operator operand hypothesis =>
      rw [Chain.flat, Chain.atoms, Operand.atoms, Chain.operands_link,
        hypothesis]

/-- A level can be grouped first and its operands afterwards. -/
theorem Chain.site_flat
    (precedence : Precedence)
    (meaning : α → β)
    (chain : Chain α) :
    (chain.flat.site precedence id).substitute
        (fun operand => operand.arrange precedence meaning) =
      chain.site precedence meaning := by
  induction chain with
  | single operand =>
      rw [Chain.flat, Chain.site, Chain.site, Operand.arrange, Site.substitute,
        Chain.substitute_single, Operand.substitute_atom, List.map_nil]
      rfl
  | link before operator operand hypothesis =>
      rw [Chain.flat, Chain.site, Chain.site, ← Site.extend_substitute,
        hypothesis, Operand.arrange, Operand.substitute_atom]
      rfl

theorem Chain.arrange_flat
    (precedence : Precedence)
    (meaning : α → β)
    (chain : Chain α) :
    (chain.flat.arrange precedence id).substitute
        (fun operand => operand.arrange precedence meaning) =
      chain.arrange precedence meaning := by
  rw [Chain.arrange, Chain.arrange, ← Site.close_substitute, Chain.site_flat]

/-! ## Climbing and the operators that wait -/

/-- Climbing keeps the chains of a level in order. -/
theorem Chain.ordered_site
    (meaning : α → β)
    (chain : Chain α) :
    (chain.site .climbing meaning).Ordered := by
  induction chain with
  | single operand =>
      rw [Chain.site]
      exact .single _
  | link before operator operand hypothesis =>
      rw [Chain.site]
      exact hypothesis.extend operator _

/-- Climbing keeps a chain for every operator that waits. -/
theorem Chain.mem_priorities_site
    (meaning : α → β)
    (priority : Nat)
    (chain : Chain α) :
    priority ∈ (chain.site .climbing meaning).priorities ↔
      Waits priority chain.operators := by
  induction chain with
  | single operand =>
      rw [Chain.site, Chain.operators_single]
      constructor
      · intro member
        exact absurd member List.not_mem_nil
      · intro waits
        exact absurd waits (not_waits_nil priority)
  | link before operator operand hypothesis =>
      rw [Chain.site, (before.ordered_site meaning).priorities_extend,
        Chain.operators_link, waits_append, List.mem_cons, List.mem_filter,
        decide_eq_true_iff, hypothesis]

/-- A level begins to cross where climbing meets a loosest operator behind three chains. -/
theorem Chain.crosses_link
    (before : Chain α)
    (operator : Operator)
    (operand : Operand α) :
    Crosses (Chain.operators (.link before operator operand)) ↔
      Crosses before.operators ∨
        ((before.flat.site .climbing id).priorities = [2, 1, 0] ∧
          operator.priority = 0) := by
  have ordered := before.flat.ordered_site id
  have waiting := before.flat.mem_priorities_site id
  rw [before.operators_flat] at waiting
  rw [Chain.operators_link, crosses_append, ← waiting, ← waiting, ← waiting]
  constructor
  · rintro (crosses | ⟨loosest, all⟩)
    · exact .inl crosses
    · exact .inr ⟨ordered.priorities_eq all, loosest⟩
  · rintro (crosses | ⟨priorities, loosest⟩)
    · exact .inl crosses
    · rw [priorities]
      exact .inr ⟨loosest, by decide⟩

/-- Climbing leaves every additive operator outside of groups. -/
theorem Chain.additiveCount_site_climbing
    (meaning : α → β)
    (chain : Chain α) :
    additiveCount (chain.site .climbing meaning).close.operators =
      additiveCount chain.operators := by
  induction chain with
  | single operand =>
      rw [Chain.site]
      rfl
  | link before operator operand hypothesis =>
      rw [Chain.site, Chain.operators_link, additiveCount_append]
      cases position :
          (attach .climbing operator
            (before.site .climbing meaning)).site.outers with
      | nil =>
          rw [Site.operators_close_extend_outermost position,
            additiveCount_append, hypothesis]
      | cons outer outers =>
          -- A chain is left that waits behind a looser operator, so this one is not additive.
          have behind :=
            (before.ordered_site meaning).outers_attach operator
          have looser :
              outer.operator.priority ∈
                (before.site .climbing meaning).priorities.filter
                  fun priority => priority < operator.priority := by
            rw [← behind, position]
            exact List.mem_map.2 ⟨outer, List.mem_cons_self, rfl⟩
          have above :=
            of_decide_eq_true (List.mem_filter.1 looser).2
          rw [Site.operators_close_extend_inner, hypothesis,
            if_neg (Nat.ne_of_gt (Nat.zero_lt_of_lt above)), Nat.add_zero]
          rw [position]
          exact List.cons_ne_nil _ _

/-! ## One level in both modes -/

/-- The modes build one and the same site of a level that does not cross. -/
theorem Chain.site_flat_modes
    {chain : Chain α}
    (fine : ¬Crosses chain.operators) :
    chain.flat.site .climbing id = chain.flat.site .singleLevel id := by
  induction chain with
  | single operand =>
      rw [Chain.flat, Chain.site, Chain.site, Operand.arrange, Operand.arrange]
  | link before operator operand hypothesis =>
      rw [Chain.crosses_link, not_or] at fine
      rcases fine with ⟨fineBefore, notThree⟩
      have sameBefore := hypothesis fineBefore
      have sameAttached :=
        ((before.flat.ordered_site id).attach_eq_or operator).resolve_right
          notThree
      rw [Chain.flat, Chain.site, Chain.site, ← sameBefore, Site.extend,
        Site.extend, sameAttached, Operand.arrange, Operand.arrange]

/-- In a level that crosses, the mode that closes one chain at most leaves an additive operator in a group. -/
theorem Chain.additiveCount_site_singleLevel
    {chain : Chain α}
    (crosses : Crosses chain.operators) :
    additiveCount (chain.flat.site .singleLevel id).close.operators <
      additiveCount chain.operators := by
  induction chain with
  | single operand => exact absurd crosses not_crosses_nil
  | link before operator operand hypothesis =>
      rw [Chain.flat, Chain.site, Chain.operators_link, additiveCount_append]
      by_cases crossesBefore : Crosses before.operators
      · apply Nat.lt_of_le_of_lt (Site.additiveCount_extend_le _ _ _ _)
        exact Nat.add_lt_add_right (hypothesis crossesBefore) _
      · -- Up to here the modes agree; this operator is the first that they attach differently.
        rcases ((Chain.crosses_link _ _ _).1 crosses).resolve_left
            crossesBefore with
          ⟨priorities, loosest⟩
        rw [Chain.site_flat_modes crossesBefore] at priorities
        have atMost := before.flat.additiveCount_site_le .singleLevel id
        rw [Chain.operators_flat] at atMost
        rw [Site.operators_close_extend_inner
            (outers_attach_singleLevel priorities loosest),
          if_pos loosest]
        exact Nat.lt_succ_of_le atMost

/-- The modes group a level alike if and only if it does not cross and they group its operands alike. -/
theorem Chain.arrange_modes_iff
    (meaning : α → β)
    (chain : Chain α) :
    chain.arrange .climbing meaning = chain.arrange .singleLevel meaning ↔
      ¬Crosses chain.operators ∧
        ∀ operand ∈ chain.operands,
          operand.arrange .climbing meaning =
            operand.arrange .singleLevel meaning := by
  -- With one site for both modes, only what is put in the place of the operands can differ.
  have operandwise
      (fine : ¬Crosses chain.operators) :
      chain.arrange .climbing meaning = chain.arrange .singleLevel meaning ↔
        ∀ operand ∈ chain.operands,
          operand.arrange .climbing meaning =
            operand.arrange .singleLevel meaning := by
    rw [← Chain.arrange_flat .climbing, ← Chain.arrange_flat .singleLevel,
      Chain.arrange, Chain.arrange, Chain.site_flat_modes fine,
      Chain.substitute_eq_iff, ← Chain.arrange, Chain.atoms_arrange,
      Chain.atoms_flat, List.map_id]
  constructor
  · intro same
    have fine : ¬Crosses chain.operators := by
      intro crosses
      have fewer := Chain.additiveCount_site_singleLevel crosses
      have all := chain.flat.additiveCount_site_climbing id
      have operators := congrArg Chain.operators same
      rw [← Chain.arrange_flat .climbing, ← Chain.arrange_flat .singleLevel,
        Chain.operators_substitute, Chain.operators_substitute] at operators
      rw [← Chain.arrange, ← operators, Chain.arrange, all,
        Chain.operators_flat] at fewer
      exact Nat.lt_irrefl _ fewer
    exact ⟨fine, (operandwise fine).1 same⟩
  · rintro ⟨fine, operands⟩
    exact (operandwise fine).2 operands

/-! ## All levels in both modes -/

mutual

/-- The modes group all operands of a level alike if and only if no chain inside of it crosses. -/
theorem Chain.operands_modes_iff
    (meaning : α → β) :
    (chain : Chain α) →
    ((∀ operand ∈ chain.operands,
        operand.arrange .climbing meaning =
          operand.arrange .singleLevel meaning) ↔
      ∀ inner ∈ chain.inner, ¬Crosses inner.operators)
  | .single operand => by
      rw [Chain.inner, ← Operand.arrange_modes_iff meaning operand]
      constructor
      · intro same
        exact same operand (List.mem_singleton_self operand)
      · intro same other member
        rw [List.mem_singleton.1 member]
        exact same
  | .link before operator operand => by
      rw [Chain.inner, Chain.operands_link, List.forall_mem_append,
        List.forall_mem_append, List.forall_mem_singleton,
        Chain.operands_modes_iff meaning before,
        Operand.arrange_modes_iff meaning operand]

/-- The modes group an operand alike if and only if no chain inside of it crosses. -/
theorem Operand.arrange_modes_iff
    (meaning : α → β) :
    (operand : Operand α) →
    (operand.arrange .climbing meaning =
        operand.arrange .singleLevel meaning ↔
      ∀ inner ∈ operand.inner, ¬Crosses inner.operators)
  | .atom value => by
      rw [Operand.arrange, Operand.arrange, Operand.inner]
      constructor
      · intro _ inner member
        exact absurd member List.not_mem_nil
      · intro _
        rfl
  | .group body => by
      rw [Operand.arrange, Operand.arrange, Operand.group.injEq,
        ← Chain.arrange, ← Chain.arrange, Chain.arrange_modes_iff,
        Chain.operands_modes_iff meaning body, Operand.inner,
        List.forall_mem_append, List.forall_mem_singleton, and_comm]

end

/-- The modes group a chain alike if and only if neither it nor a chain inside of it crosses. -/
theorem Chain.modes_agree_iff
    (meaning : α → β)
    (chain : Chain α) :
    chain.arrange .climbing meaning = chain.arrange .singleLevel meaning ↔
      ∀ level ∈ (chain.inner ++ [chain]).map Chain.operators,
        ¬Crosses level := by
  rw [Chain.arrange_modes_iff, Chain.operands_modes_iff, List.forall_mem_map,
    List.forall_mem_append, List.forall_mem_singleton, and_comm]

end

/-! ## Both modes on accepted texts -/

/-- Both modes make equal formulas of a syntax tree if and only if no level of its text crosses. -/
theorem Expression.formula_modes_iff
    (parameters : List String)
    (expression : Expression) :
    (expression.formula .climbing parameters ==
        expression.formula .singleLevel parameters) = true ↔
      ∀ level ∈ operatorLevels expression.text, ¬Crosses level := by
  rw [Formula.beq_iff_map_key, formula, formula, Chain.arrange_map,
    Chain.arrange_map, Chain.modes_agree_iff, operatorLevels_text]

/--
Both modes accept the same texts.  They make equal formulas of one if and only
if none of its bracket levels crosses; so they do where each level has
operators of two priorities at most.
-/
theorem parse_modes_agree_iff
    {precedence : Precedence}
    {parameters : List String}
    {formula : String}
    {parsed : Formula}
    (accepted : Formula.parse precedence parameters formula = .ok parsed) :
    ∃ climbed single,
      Formula.parse .climbing parameters formula = .ok climbed ∧
        Formula.parse .singleLevel parameters formula = .ok single ∧
        ((climbed == single) = true ↔
          ∀ level ∈ operatorLevels formula.toList, ¬Crosses level) ∧
        ((∀ level ∈ operatorLevels formula.toList,
            ∃ low high,
              ∀ operator ∈ level,
                operator.priority = low ∨ operator.priority = high) →
          (climbed == single) = true) := by
  rcases parse_eq_ok_iff.1 accepted with ⟨expression, spelled, known, _⟩
  have agree := expression.formula_modes_iff parameters
  rw [spelled] at agree
  refine
    ⟨_, _, parse_eq_formula spelled known, parse_eq_formula spelled known,
      agree, ?_⟩
  intro two
  apply agree.2
  intro level member
  rcases two level member with ⟨low, high, only⟩
  exact not_crosses_of_two_priorities only

/-- A product with a power between two sums crosses, so the modes make different formulas of it. -/
theorem parse_modes_agree_iff_sums :
    let literal (mantissa : Nat) (small : mantissa < 10) : Operand Atom :=
      .atom
        (.literal
          (.finite
            ⟨false, mantissa, 0, Nat.lt_trans small (by decide), by decide⟩))
    let one := literal 1 (by decide)
    let four := literal 4 (by decide)
    let power : Operand Atom :=
      .group
        (.link (.single (.atom (.variable 0))) .power (literal 3 (by decide)))
    let product : Formula :=
      .link (.single (literal 2 (by decide))) .multiply power
    let climbed : Formula :=
      .link (.link (.single one) .add (.group product)) .subtract four
    let single : Formula :=
      .link (.single one) .add (.group (.link product .subtract four))
    Formula.parse .climbing ["x"] "1+2*x^3-4" = .ok climbed ∧
      Formula.parse .singleLevel ["x"] "1+2*x^3-4" = .ok single ∧
        ¬(climbed == single) = true := by
  intro literal one four power product climbed single
  let numeral (digit : Char) (isDigit : digit.isDigit = true) : Operand Word :=
    .atom (.numeral [digit] (.digit isDigit))
  let expression : Expression :=
    .link
      (.link
        (.link
          (.link (.single (numeral '1' (by decide))) .add
            (numeral '2' (by decide)))
          .multiply (.atom (.name ['x'] (.letter (by decide)))))
        .power (numeral '3' (by decide)))
      .subtract (numeral '4' (by decide))
  have spelled : expression.text = "1+2*x^3-4".toList := rfl
  have known : expression.Known ["x"] := by
    decide
  have accepted : Formula.parse .climbing ["x"] "1+2*x^3-4" = .ok climbed :=
    parse_eq_formula spelled known
  have levels :
      operatorLevels "1+2*x^3-4".toList =
        [[.add, .multiply, .power, .subtract]] :=
    rfl
  have crosses : Crosses [.add, .multiply, .power, .subtract] :=
    ⟨[], .add, [.multiply, .power], .subtract, [], rfl, .inl rfl, .inr rfl,
      by simp [Operator.IsAdditive],
      [], .multiply, [.power], rfl, .inl rfl,
      by simp [Operator.IsMultiplicative], List.mem_singleton_self _⟩
  have bySingleLevel :
      Formula.parse .singleLevel ["x"] "1+2*x^3-4" = .ok single :=
    parse_eq_formula spelled known
  rcases parse_modes_agree_iff accepted with
    ⟨_, _, climbing, singleLevel, agree, _⟩
  rw [accepted] at climbing
  rw [bySingleLevel] at singleLevel
  cases climbing
  cases singleLevel
  refine ⟨accepted, bySingleLevel, ?_⟩
  intro same
  apply agree.1 same _ _ crosses
  rw [levels]
  exact List.mem_singleton_self _

end Formulary
