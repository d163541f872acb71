import Formulary.Configuration.Document

/-!
# Tables in ascending order

The table of a document holds its definitions in ascending order of their
numbers, whatever their order in the document is.  So every number has at most
one definition, and the one that is found for a number is the one that is
listed with it.
-/

namespace Formulary

namespace Table

/-- The numbers of the definitions ascend. -/
def Ascending (table : Table) : Prop :=
  table.entries.Pairwise fun earlier later => earlier.1 < later.1

section

variable {id : FormulaId} {definition : Definition}

/-- Nothing but the new entry is added. -/
theorem mem_insertEntry
    {entry : FormulaId × Definition}
    {entries : List (FormulaId × Definition)}
    (member : entry ∈ insertEntry id definition entries) :
    entry = (id, definition) ∨ entry ∈ entries := by
  induction entries with
  | nil => exact .inl (List.mem_singleton.1 member)
  | cons first entries hypothesis =>
      rw [insertEntry] at member
      split at member
      · exact List.mem_cons.1 member
      · split at member
        · rcases List.mem_cons.1 member with new | old
          · exact .inl new
          · exact .inr (List.mem_cons_of_mem _ old)
        · rcases List.mem_cons.1 member with rfl | behind
          · exact .inr List.mem_cons_self
          · rcases hypothesis behind with new | old
            · exact .inl new
            · exact .inr (List.mem_cons_of_mem _ old)

theorem pairwise_insertEntry
    {entries : List (FormulaId × Definition)}
    (ascending : entries.Pairwise fun earlier later => earlier.1 < later.1) :
    (insertEntry id definition entries).Pairwise
      fun earlier later => earlier.1 < later.1 := by
  induction entries with
  | nil => exact List.pairwise_singleton _ _
  | cons first entries hypothesis =>
      rcases List.pairwise_cons.1 ascending with ⟨least, others⟩
      rw [insertEntry]
      split
      · rename_i before
        refine List.pairwise_cons.2 ⟨?_, ascending⟩
        intro entry member
        rcases List.mem_cons.1 member with rfl | behind
        · exact before
        · exact UInt32.lt_trans before (least entry behind)
      · rename_i notBefore
        split
        · rename_i same
          refine List.pairwise_cons.2 ⟨?_, others⟩
          intro entry member
          rw [same]
          exact least entry member
        · rename_i differ
          have behind : first.1 < id :=
            UInt32.lt_of_le_of_ne (UInt32.not_lt.1 notBefore) (Ne.symm differ)
          refine List.pairwise_cons.2 ⟨?_, hypothesis others⟩
          intro entry member
          rcases mem_insertEntry member with rfl | old
          · exact behind
          · exact least entry old

end

/-- Definitions are put in their places. -/
theorem ascending_ofEntries
    (entries : List (FormulaId × Definition)) :
    (ofEntries entries).Ascending := by
  have step
      (table : Table)
      (ascending : table.Ascending) :
      (entries.foldl (fun table entry => table.insert entry.1 entry.2)
        table).Ascending := by
    induction entries generalizing table with
    | nil => exact ascending
    | cons entry entries hypothesis =>
        exact hypothesis _ (pairwise_insertEntry ascending)
  exact step empty List.Pairwise.nil

/-- The definition that is listed with a number is the one that is found for it. -/
theorem Ascending.get?_of_mem
    {table : Table}
    (ascending : table.Ascending)
    {entry : FormulaId × Definition}
    (member : entry ∈ table.entries) :
    table.get? entry.1 = some entry.2 := by
  rw [Ascending] at ascending
  rw [get?]
  generalize table.entries = entries at ascending member
  induction entries with
  | nil => exact absurd member List.not_mem_nil
  | cons first entries hypothesis =>
      rcases List.pairwise_cons.1 ascending with ⟨least, others⟩
      rcases List.mem_cons.1 member with rfl | behind
      · rw [List.lookup_cons, beq_self_eq_true]
      · have differ : (entry.1 == first.1) = false :=
          beq_false_of_ne (UInt32.ne_of_lt (least entry behind)).symm
        rw [List.lookup_cons, differ]
        exact hypothesis others behind

/-! ## Tables of documents -/

theorem ascending_ofJson?
    {document : JsonValue}
    {table : Table}
    (read : ofJson? document = some table) :
    table.Ascending := by
  cases document with
  | object members =>
      rw [ofJson?] at read
      rcases Option.bind_eq_some_iff.1 read with ⟨entries, _, same⟩
      cases same
      exact ascending_ofEntries entries
  | _ => cases read

end Table

/-- A required field that is read has a value. -/
theorem exists_of_requiredField?
    {Value : Type}
    {members : List (String × JsonValue)}
    {name : String}
    {read : JsonValue → Option Value}
    {value : Value}
    (found : requiredField? members name read = some value) :
    ∃ field, read field = some value := by
  rw [requiredField?] at found
  split at found
  · exact ⟨_, found⟩
  · cases found

namespace Configuration

theorem ascending_ofJson?
    {document : JsonValue}
    {configuration : Configuration}
    (read : ofJson? document = some configuration) :
    configuration.formulas.Ascending := by
  unfold ofJson? at read
  split at read
  · rcases Option.bind_eq_some_iff.1 read with ⟨members, _, read⟩
    rcases Option.bind_eq_some_iff.1 read with ⟨options, _, read⟩
    rcases Option.bind_eq_some_iff.1 read with ⟨formulas, required, same⟩
    cases same
    rcases exists_of_requiredField? required with ⟨field, found⟩
    exact Table.ascending_ofJson? found
  · rcases Option.bind_eq_some_iff.1 read with ⟨options, _, read⟩
    rcases Option.bind_eq_some_iff.1 read with ⟨formulas, found, same⟩
    cases same
    exact Table.ascending_ofJson? found
  · cases read

/-- The formulas of a configuration that loads are in ascending order. -/
theorem ascending_of_load
    {text : String}
    {configuration : Configuration}
    (loaded : load text = .ok configuration) :
    configuration.formulas.Ascending := by
  rw [load] at loaded
  split at loaded
  · cases loaded
  · rename_i read
    rcases Option.bind_eq_some_iff.1 read with ⟨document, _, found⟩
    rw [Table.validate] at loaded
    split at loaded
    · cases loaded
    · cases loaded
      exact ascending_ofJson? found

end Configuration

end Formulary
