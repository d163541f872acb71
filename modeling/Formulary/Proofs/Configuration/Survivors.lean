import Mathlib.Data.List.Induction
import Formulary.Proofs.Configuration.Order

/-!
# Definitions that survive in a table

A table is made of definitions with their numbers, added one after the other,
and the last definition with a number survives: `Survives`.  It is the one that
is found in the table.

An ascending table is known from the definitions that are found in it, so
definitions with different numbers may be added in any order:
`Table.ofEntries_perm`.
-/

namespace Formulary

/-- The definition is the last one that is listed with the number. -/
def Survives
    (entries : List (FormulaId × Definition))
    (id : FormulaId)
    (definition : Definition) :
    Prop :=
  ∃ before later,
    entries = before ++ (id, definition) :: later ∧
      ∀ other ∈ later, other.1 ≠ id

theorem survives_iff_lookup
    {entries : List (FormulaId × Definition)}
    {id : FormulaId}
    {definition : Definition} :
    Survives entries id definition ↔
      entries.reverse.lookup id = some definition := by
  rw [List.lookup_eq_some_iff]
  constructor
  · rintro ⟨before, later, rfl, others⟩
    refine ⟨later.reverse, before.reverse, by simp, ?_⟩
    intro other member
    exact bne_iff_ne.2 (others other (List.mem_reverse.1 member)).symm
  · rintro ⟨later, before, split, others⟩
    refine ⟨before.reverse, later.reverse, ?_, ?_⟩
    · rw [← List.reverse_inj, split]
      simp
    · intro other member same
      exact
        bne_iff_ne.1 (others other (List.mem_reverse.1 member)) same.symm

namespace Table

theorem lookup_cons_eq_ite
    (id : FormulaId)
    (entry : FormulaId × Definition)
    (entries : List (FormulaId × Definition)) :
    (entry :: entries).lookup id =
      if id = entry.1 then some entry.2 else entries.lookup id := by
  rw [List.lookup_cons]
  by_cases same : id = entry.1
  · simp [same]
  · rw [if_neg same, beq_false_of_ne same]

/-- An entry that is added is found under its number, and the others stay what they are. -/
theorem lookup_insertEntry
    (id other : FormulaId)
    (definition : Definition)
    (entries : List (FormulaId × Definition)) :
    (insertEntry id definition entries).lookup other =
      if other = id then some definition else entries.lookup other := by
  induction entries with
  | nil => exact lookup_cons_eq_ite other (id, definition) []
  | cons entry entries hypothesis =>
      rw [insertEntry]
      split
      · exact lookup_cons_eq_ite other (id, definition) (entry :: entries)
      · split
        · rename_i same
          rw [lookup_cons_eq_ite, lookup_cons_eq_ite, ← same]
          split
          · rfl
          · rfl
        · rename_i differ
          rw [lookup_cons_eq_ite, lookup_cons_eq_ite, hypothesis]
          by_cases asked : other = id
          · rw [if_pos asked, if_pos asked, asked, if_neg differ]
          · rw [if_neg asked, if_neg asked]

/-- The definition that is found for a number is the last one listed with it. -/
theorem get?_ofEntries
    (entries : List (FormulaId × Definition))
    (id : FormulaId) :
    (ofEntries entries).get? id = entries.reverse.lookup id := by
  induction entries using List.reverseRecOn with
  | nil => rfl
  | append_singleton entries last hypothesis =>
      have added :
          ofEntries (entries ++ [last]) =
            (ofEntries entries).insert last.1 last.2 := by
        rw [ofEntries, List.foldl_append]
        rfl
      rw [added, get?, insert, lookup_insertEntry, List.reverse_concat,
        lookup_cons_eq_ite, ← hypothesis, get?]

theorem get?_ofEntries_eq_some_iff
    {entries : List (FormulaId × Definition)}
    {id : FormulaId}
    {definition : Definition} :
    (ofEntries entries).get? id = some definition ↔
      Survives entries id definition := by
  rw [get?_ofEntries, survives_iff_lookup]

/-- In ascending order a definition is listed with a number exactly if it is found for it. -/
theorem Ascending.mem_iff
    {table : Table}
    (ascending : table.Ascending)
    {id : FormulaId}
    {definition : Definition} :
    (id, definition) ∈ table.entries ↔ table.get? id = some definition := by
  constructor
  · exact ascending.get?_of_mem
  · intro found
    rcases List.lookup_eq_some_iff.1 found with ⟨before, behind, split, _⟩
    rw [split]
    exact List.mem_append_right _ List.mem_cons_self

/-- Ascending tables in which the same definitions are found are the same. -/
theorem Ascending.ext
    {left right : Table}
    (leftAscending : left.Ascending)
    (rightAscending : right.Ascending)
    (same : ∀ id, left.get? id = right.get? id) :
    left = right := by
  have distinct
      {table : Table}
      (ascending : table.Ascending) :
      table.entries.Nodup :=
    ascending.imp fun before equal =>
      UInt32.ne_of_lt before (congrArg Prod.fst equal)
  have permuted : left.entries.Perm right.entries := by
    rw [List.perm_ext_iff_of_nodup (distinct leftAscending)
      (distinct rightAscending)]
    rintro ⟨id, definition⟩
    rw [leftAscending.mem_iff, rightAscending.mem_iff, same]
  rcases left with ⟨left⟩
  rcases right with ⟨right⟩
  congr 1
  apply List.Perm.eq_of_pairwise _ leftAscending rightAscending permuted
  intro first second _ _ before after
  exact absurd after (UInt32.lt_asymm before)

end Table

/-- A definition that is listed with a number of its own survives. -/
theorem survives_iff_mem
    {entries : List (FormulaId × Definition)}
    (distinct : (entries.map Prod.fst).Nodup)
    {id : FormulaId}
    {definition : Definition} :
    Survives entries id definition ↔ (id, definition) ∈ entries := by
  constructor
  · rintro ⟨before, later, rfl, _⟩
    exact List.mem_append_right _ List.mem_cons_self
  · intro member
    rcases List.append_of_mem member with ⟨before, later, rfl⟩
    refine ⟨before, later, rfl, ?_⟩
    intro other isLater same
    rw [List.map_append, List.map_cons] at distinct
    have own := (List.nodup_append.1 distinct).2.1
    rw [List.nodup_cons] at own
    exact own.1 (List.mem_map.2 ⟨other, isLater, same⟩)

/-- In which order definitions with different numbers are listed makes no difference. -/
theorem Table.ofEntries_perm
    {entries permuted : List (FormulaId × Definition)}
    (order : entries.Perm permuted)
    (distinct : (entries.map Prod.fst).Nodup) :
    ofEntries entries = ofEntries permuted := by
  have alsoDistinct : (permuted.map Prod.fst).Nodup :=
    (order.map Prod.fst).nodup_iff.1 distinct
  apply (ascending_ofEntries entries).ext (ascending_ofEntries permuted)
  intro id
  apply Option.ext
  intro definition
  rw [get?_ofEntries_eq_some_iff, get?_ofEntries_eq_some_iff,
    survives_iff_mem distinct, survives_iff_mem alsoDistinct, order.mem_iff]

end Formulary
