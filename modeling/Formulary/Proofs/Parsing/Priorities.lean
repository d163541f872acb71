import Formulary.Proofs.Parsing.Attachment

/-!
# The priorities that chains wait behind

While a level is read with climbing precedence, its chains wait behind looser
operators the further out they are.  So an operator closes exactly the chains
that wait behind an operator no looser than itself, and there are never more
than three.

The other mode closes one chain at most.  The modes attach an operator
differently only where three chains wait and the operator is as loose as can
be: there climbing closes two of them.
-/

namespace Formulary

section

variable {α : Type}

/-- The priorities of the operators that the chains of a site wait behind, the innermost first. -/
def Site.priorities (site : Site α) : List Nat :=
  match site.chain with
  | .single _ => site.outers.map fun outer => outer.operator.priority
  | .link _ operator _ =>
      operator.priority :: site.outers.map fun outer => outer.operator.priority

/-- The chains wait behind looser operators the further out they are, and none waits for the first operand. -/
inductive Site.Ordered : Site α → Prop where
  | single (operand : Operand α) : Ordered ⟨.single operand, []⟩
  | link
      {before : Chain α}
      {operator : Operator}
      {operand : Operand α}
      {outers : List (Outer α)}
      (loosening : Loosening (⟨before, operator⟩ :: outers)) :
      Ordered ⟨.link before operator operand, outers⟩

theorem Operator.priority_le_two
    (operator : Operator) :
    operator.priority ≤ 2 := by
  cases operator <;> decide

/-- Loosening outer chains have decreasing priorities. -/
theorem loosening_iff
    (outers : List (Outer α)) :
    Loosening outers ↔
      (outers.map fun outer => outer.operator.priority).Pairwise
        fun inner outer => outer < inner := by
  rw [Loosening, List.pairwise_map]

theorem Site.Ordered.decreasing
    {site : Site α}
    (ordered : site.Ordered) :
    site.priorities.Pairwise fun inner outer => outer < inner := by
  cases ordered with
  | single operand => exact List.Pairwise.nil
  | link loosening => exact (loosening_iff _).1 loosening

theorem Site.le_two_of_mem_priorities
    {site : Site α}
    {priority : Nat}
    (member : priority ∈ site.priorities) :
    priority ≤ 2 := by
  have onOuters :
      priority ∈ (site.outers.map fun outer => outer.operator.priority) →
        priority ≤ 2 := by
    intro inOuters
    rcases List.mem_map.1 inOuters with ⟨outer, _, rfl⟩
    exact outer.operator.priority_le_two
  rcases site with ⟨chain, outers⟩
  cases chain with
  | single operand => exact onOuters member
  | link before operator operand =>
      rcases List.mem_cons.1 member with rfl | inOuters
      · exact operator.priority_le_two
      · exact onOuters inOuters

/-! ## The ways to attach an operator -/

section

variable {precedence : Precedence}
variable {before : Chain α} {previous operator : Operator}
variable {operand : Operand α} {outers : List (Outer α)}

theorem attach_of_tighter
    (tighter : previous.priority < operator.priority) :
    (attach precedence operator ⟨.link before previous operand, outers⟩).site =
      ⟨.single operand, ⟨before, previous⟩ :: outers⟩ := by
  simp only [attach, if_pos tighter]

theorem attach_of_looser
    (looser : operator.priority < previous.priority) :
    (attach precedence operator ⟨.link before previous operand, outers⟩).site =
      (climb precedence operator.priority (.link before previous operand)
          outers).getD
        ⟨.link before previous operand, outers⟩ := by
  simp only [attach, if_neg (Nat.lt_asymm looser), if_pos looser]
  cases climb precedence operator.priority (.link before previous operand)
      outers with
  | none => rfl
  | some reached => rfl

theorem attach_of_same
    (same : operator.priority = previous.priority) :
    (attach precedence operator ⟨.link before previous operand, outers⟩).site =
      ⟨.link before previous operand, outers⟩ := by
  simp only [attach, same, Nat.lt_irrefl, if_false]

end

/-! ## Climbing -/

/-- Climbing closes the outer chains up to the first that waits behind a looser operator. -/
theorem outers_climb
    (priority : Nat)
    (chain : Chain α)
    (outers : List (Outer α)) :
    (((climb .climbing priority chain outers).getD ⟨chain, outers⟩).outers.map
        fun outer => outer.operator.priority) =
      (outers.map fun outer => outer.operator.priority).dropWhile
        fun other => priority ≤ other := by
  induction outers generalizing chain with
  | nil => rfl
  | cons outer outers hypothesis =>
      rw [List.map_cons, List.dropWhile_cons]
      rcases Nat.lt_or_ge outer.operator.priority priority with
        tighter | binds
      · rw [climb_of_tighter tighter, if_neg]
        · rfl
        · rw [decide_eq_true_iff]
          exact Nat.not_le_of_lt tighter
      · rw [climb_climbing binds, if_pos (decide_eq_true binds)]
        exact hypothesis (outer.close chain)

/-- In a decreasing list those that are not below a bound stand in front. -/
theorem dropWhile_eq_filter
    {priorities : List Nat}
    (decreasing : priorities.Pairwise fun inner outer => outer < inner)
    (bound : Nat) :
    priorities.dropWhile (fun priority => bound ≤ priority) =
      priorities.filter fun priority => priority < bound := by
  induction priorities with
  | nil => rfl
  | cons priority priorities hypothesis =>
      rcases List.pairwise_cons.1 decreasing with ⟨below, rest⟩
      rw [List.dropWhile_cons]
      rcases Nat.lt_or_ge priority bound with looser | binds
      · rw [if_neg, List.filter_eq_self.2]
        · intro other member
          rw [decide_eq_true_iff]
          rcases List.mem_cons.1 member with rfl | further
          · exact looser
          · exact Nat.lt_trans (below other further) looser
        · rw [decide_eq_true_iff]
          exact Nat.not_le_of_lt looser
      · rw [if_pos (decide_eq_true binds), List.filter_cons_of_neg,
          hypothesis rest]
        rw [decide_eq_true_iff]
        exact Nat.not_lt_of_le binds

/-- Behind an operator that climbs, the chains are left that wait behind looser ones. -/
theorem Site.Ordered.outers_attach
    {site : Site α}
    (ordered : site.Ordered)
    (operator : Operator) :
    ((attach .climbing operator site).site.outers.map fun outer =>
        outer.operator.priority) =
      site.priorities.filter fun priority => priority < operator.priority := by
  have decreasing := ordered.decreasing
  cases ordered with
  | single operand => rfl
  | @link before previous operand outers loosening =>
      have priorities :
          Site.priorities ⟨.link before previous operand, outers⟩ =
            previous.priority ::
              outers.map fun outer => outer.operator.priority :=
        rfl
      rw [priorities] at decreasing ⊢
      rcases Nat.lt_trichotomy operator.priority previous.priority with
        looser | same | tighter
      · rw [attach_of_looser looser, outers_climb,
          dropWhile_eq_filter decreasing.of_cons, List.filter_cons_of_neg]
        rw [decide_eq_true_iff]
        exact Nat.lt_asymm looser
      · rw [attach_of_same same, same, List.filter_cons_of_neg,
          List.filter_eq_self.2]
        · intro other member
          exact decide_eq_true (List.rel_of_pairwise_cons decreasing member)
        · rw [decide_eq_true_iff]
          exact Nat.lt_irrefl _
      · rw [attach_of_tighter tighter, List.map_cons, List.filter_eq_self.2]
        intro other member
        rw [decide_eq_true_iff]
        rcases List.mem_cons.1 member with rfl | further
        · exact tighter
        · exact
            Nat.lt_trans (List.rel_of_pairwise_cons decreasing further) tighter

/-- Behind an operator that climbs and its operand, the operator waits and so do the looser ones before. -/
theorem Site.Ordered.priorities_extend
    {site : Site α}
    (ordered : site.Ordered)
    (operator : Operator)
    (operand : Operand α) :
    (site.extend .climbing operator operand).priorities =
      operator.priority ::
        site.priorities.filter fun priority => priority < operator.priority := by
  rw [← ordered.outers_attach operator]
  rfl

/-- Climbing keeps the chains in order. -/
theorem Site.Ordered.extend
    {site : Site α}
    (ordered : site.Ordered)
    (operator : Operator)
    (operand : Operand α) :
    (site.extend .climbing operator operand).Ordered := by
  have outers := ordered.outers_attach operator
  apply Site.Ordered.link
  rw [loosening_iff, List.map_cons, outers]
  apply List.Pairwise.cons
  · intro priority member
    exact of_decide_eq_true (List.mem_filter.1 member).2
  · exact ordered.decreasing.filter _

/-! ## Where the modes part -/

/-- A decreasing list that has its upper bound begins with it. -/
theorem exists_tail_of_decreasing
    {priorities : List Nat}
    {bound : Nat}
    (decreasing : priorities.Pairwise fun inner outer => outer < inner)
    (bounded : ∀ priority ∈ priorities, priority ≤ bound)
    (member : bound ∈ priorities) :
    ∃ tail,
      priorities = bound :: tail ∧
        (tail.Pairwise fun inner outer => outer < inner) ∧
          ∀ priority ∈ tail, priority < bound := by
  cases priorities with
  | nil => exact absurd member List.not_mem_nil
  | cons first tail =>
      rcases List.pairwise_cons.1 decreasing with ⟨below, rest⟩
      have atMost := bounded first List.mem_cons_self
      rcases List.mem_cons.1 member with rfl | further
      · exact ⟨tail, rfl, rest, below⟩
      · exact absurd (below bound further) (Nat.not_lt_of_le atMost)

/-- Three chains wait if there is one for each priority. -/
theorem Site.Ordered.priorities_eq
    {site : Site α}
    (ordered : site.Ordered)
    (all : 0 ∈ site.priorities ∧ 1 ∈ site.priorities ∧ 2 ∈ site.priorities) :
    site.priorities = [2, 1, 0] := by
  rcases all with ⟨zero, one, two⟩
  rcases
      exists_tail_of_decreasing ordered.decreasing
        (fun _ member => Site.le_two_of_mem_priorities member) two with
    ⟨afterTwo, isTwo, decreasing, below⟩
  rw [isTwo] at zero one ⊢
  have oneLater : 1 ∈ afterTwo := List.mem_of_ne_of_mem (by decide) one
  have zeroLater : 0 ∈ afterTwo := List.mem_of_ne_of_mem (by decide) zero
  rcases
      exists_tail_of_decreasing decreasing
        (fun priority member => Nat.le_of_lt_succ (below priority member))
        oneLater with
    ⟨afterOne, rfl, decreasing, below⟩
  have zeroLast : 0 ∈ afterOne := List.mem_of_ne_of_mem (by decide) zeroLater
  rcases
      exists_tail_of_decreasing decreasing
        (fun priority member => Nat.le_of_lt_succ (below priority member))
        zeroLast with
    ⟨afterZero, rfl, _, below⟩
  cases afterZero with
  | nil => rfl
  | cons priority _ =>
      exact absurd (below priority List.mem_cons_self) (Nat.not_lt_zero _)

/-- Where climbing goes past a second outer chain, the three priorities leave no choice. -/
theorem priorities_of_three
    {before : Chain α}
    {previous operator : Operator}
    {operand : Operand α}
    {first second : Outer α}
    {outers : List (Outer α)}
    (loosening : Loosening (⟨before, previous⟩ :: first :: second :: outers))
    (binds : operator.priority ≤ second.operator.priority) :
    Site.priorities
        ⟨.link before previous operand, first :: second :: outers⟩ =
          [2, 1, 0] ∧
      operator.priority = 0 := by
  have firstLooser : first.operator.priority < previous.priority :=
    List.rel_of_pairwise_cons loosening List.mem_cons_self
  have secondLooser :
      second.operator.priority < first.operator.priority :=
    List.rel_of_pairwise_cons loosening.of_cons List.mem_cons_self
  have atMost := previous.priority_le_two
  have isPower : previous.priority = 2 := by omega
  have isProduct : first.operator.priority = 1 := by omega
  have isSum : second.operator.priority = 0 := by omega
  have isLast : outers = [] := by
    cases outers with
    | nil => rfl
    | cons third outers =>
        have thirdLooser :
            third.operator.priority < second.operator.priority :=
          List.rel_of_pairwise_cons loosening.of_cons.of_cons
            List.mem_cons_self
        omega
  constructor
  · rw [isLast]
    show
      [previous.priority, first.operator.priority,
        second.operator.priority] = _
    rw [isPower, isProduct, isSum]
  · omega

/-- The modes attach an operator alike, unless three chains wait and the operator is the loosest. -/
theorem Site.Ordered.attach_eq_or
    {site : Site α}
    (ordered : site.Ordered)
    (operator : Operator) :
    (attach .climbing operator site).site =
        (attach .singleLevel operator site).site ∨
      (site.priorities = [2, 1, 0] ∧ operator.priority = 0) := by
  cases ordered with
  | single operand => exact .inl rfl
  | @link before previous operand outers loosening =>
      rcases Nat.lt_trichotomy operator.priority previous.priority with
        looser | same | tighter
      · rw [attach_of_looser looser, attach_of_looser looser]
        rcases outers with _ | ⟨first, outers⟩
        · exact .inl rfl
        · rcases Nat.lt_or_ge first.operator.priority operator.priority with
            stops | binds
          · rw [climb_of_tighter stops, climb_of_tighter stops]
            exact .inl rfl
          · rw [climb_singleLevel binds, climb_climbing binds]
            rcases outers with _ | ⟨second, outers⟩
            · exact .inl rfl
            · rcases Nat.lt_or_ge second.operator.priority operator.priority with
                stops | bindsNext
              · rw [climb_of_tighter stops]
                exact .inl rfl
              · exact
                  .inr (priorities_of_three loosening bindsNext)
      · rw [attach_of_same same, attach_of_same same]
        exact .inl rfl
      · rw [attach_of_tighter tighter, attach_of_tighter tighter]
        exact .inl rfl

/-- Where three chains wait, the mode that closes one chain at most leaves one waiting. -/
theorem outers_attach_singleLevel
    {site : Site α}
    {operator : Operator}
    (priorities : site.priorities = [2, 1, 0])
    (loosest : operator.priority = 0) :
    (attach .singleLevel operator site).site.outers ≠ [] := by
  rcases site with ⟨chain, outers⟩
  cases chain with
  | single operand =>
      intro closed
      have none : outers = [] := closed
      rw [none] at priorities
      cases priorities
  | link before previous operand =>
      rcases List.cons.inj priorities with ⟨isPower, behind⟩
      rcases outers with _ | ⟨first, _ | ⟨second, outers⟩⟩
      · cases behind
      · cases (List.cons.inj behind).2
      · have looser : operator.priority < previous.priority := by
          rw [loosest, isPower]
          decide
        have binds : operator.priority ≤ first.operator.priority := by
          rw [loosest]
          exact Nat.zero_le _
        rw [attach_of_looser looser, climb_singleLevel binds]
        exact List.cons_ne_nil _ _

end

end Formulary
