import Formulary.Proofs.Configuration.Survivors
import Formulary.Proofs.Decimal.Text

/-!
# The members of table documents

A table document lists definitions with their numbers, and a configuration
document has a table document in it.  A number is written in one way as a key,
so members with different keys have different numbers, and the order in which
they stand in a document does not matter: `Table.Permuted.ofJson?_eq` and
`Configuration.Permuted.ofJson?_eq`.
-/

namespace Formulary

/-! ## Documents -/

/-- The number and the definition that a member of a table document stands for. -/
def Table.entry? (member : JsonText × JsonValue) : Option (FormulaId × Definition) := do
  some (← formulaIdOfKey? member.1, ← Definition.ofJson? member.2)

/-- The definitions that a table document lists with their numbers, in its order. -/
def Table.listed? : JsonValue → Option (List (FormulaId × Definition))
  | .object members => members.mapM entry?
  | _ => none

/-- The table of a document has the definitions that it lists. -/
theorem Table.ofJson?_eq
    (document : JsonValue) :
    ofJson? document = (listed? document).map ofEntries := by
  cases document with
  | object members =>
      show (members.mapM entry? >>= fun entries => some (ofEntries entries)) = _
      rw [listed?]
      cases members.mapM entry? with
      | none => rfl
      | some entries => rfl
  | _ => rfl

/-- The document of the table in a configuration document. -/
def Configuration.table? : JsonValue → Option JsonValue
  | .object members => do
      requiredField? (← namedMembers? members) "formulas" some
  | .array [_, formulas] => some formulas
  | _ => none

/-- A required field that is read is there. -/
theorem requiredField?_eq_bind
    {Value : Type}
    (members : List (String × JsonValue))
    (name : String)
    (read : JsonValue → Option Value) :
    requiredField? members name read =
      requiredField? members name some >>= read := by
  rw [requiredField?, requiredField?]
  split
  · rfl
  · rfl

/-- The formulas of a configuration are those of the table in its document. -/
theorem Configuration.formulas_of_ofJson?
    {document : JsonValue}
    {configuration : Configuration}
    (read : ofJson? document = some configuration) :
    table? document >>= Table.ofJson? = some configuration.formulas := by
  unfold ofJson? at read
  split at read
  · rcases Option.bind_eq_some_iff.1 read with ⟨members, named, read⟩
    rcases Option.bind_eq_some_iff.1 read with ⟨options, _, read⟩
    rcases Option.bind_eq_some_iff.1 read with ⟨formulas, required, same⟩
    cases same
    rw [table?, named]
    rw [requiredField?_eq_bind] at required
    exact required
  · rcases Option.bind_eq_some_iff.1 read with ⟨options, _, read⟩
    rcases Option.bind_eq_some_iff.1 read with ⟨formulas, found, same⟩
    cases same
    exact found
  · cases read

/-! ## The order of the members -/

/-- Reading the elements of a list succeeds if it does for each of them. -/
theorem mapM_eq_ite
    {α β : Type}
    (read : α → Option β)
    (list : List α) :
    list.mapM read =
      if list.all fun element => (read element).isSome then
        some (list.filterMap read)
      else
        none := by
  induction list with
  | nil => rfl
  | cons first list hypothesis =>
      rw [List.mapM_cons, hypothesis, List.all_cons, List.filterMap_cons]
      cases read first with
      | none => rfl
      | some value =>
          rw [Option.isSome_some, Bool.true_and]
          split
          · rfl
          · rfl

/-- A digit is written for its value. -/
theorem digitChar_digitValue
    {digit : Char}
    (isDigit : digit.isDigit = true) :
    digitValue digit < 10 ∧ (digitValue digit).digitChar = digit := by
  rcases Char.isDigit_iff_toNat.1 isDigit with ⟨least, greatest⟩
  have zero : '0'.toNat = 48 := rfl
  have nine : '9'.toNat = 57 := rfl
  have small : digitValue digit < 10 := by
    rw [digitValue]
    omega
  refine ⟨small, ?_⟩
  rw [← Char.toNat_inj, Nat.toNat_digitChar_of_lt_ten small, digitValue]
  omega

/-- Digits that do not begin with a zero stand for a positive number, and are written for it. -/
theorem toDigits_numeralValue
    {digits : List Char}
    (nonempty : digits ≠ [])
    (allDigits : ∀ digit ∈ digits, digit.isDigit = true)
    (noZero : digits.head? ≠ some '0') :
    0 < numeralValue digits ∧
      Nat.toDigits 10 (numeralValue digits) = digits := by
  induction digits using List.reverseRecOn with
  | nil => exact absurd rfl nonempty
  | append_singleton front last hypothesis =>
      rcases digitChar_digitValue (allDigits last (by simp)) with
        ⟨small, written⟩
      have value :
          numeralValue (front ++ [last]) =
            10 * numeralValue front + digitValue last := by
        rw [numeralValue, List.foldl_append]
        rfl
      have single :
          Nat.toDigits 10 (digitValue last) = [last] := by
        rw [Nat.toDigits_of_lt_base small, written]
      cases front with
      | nil =>
          have sameValue : numeralValue ([] ++ [last]) = digitValue last := by
            rw [value]
            exact Nat.zero_add _
          rw [sameValue, single]
          refine ⟨Nat.pos_of_ne_zero ?_, rfl⟩
          intro isZero
          rw [isZero] at written
          rw [← written] at noZero
          exact noZero rfl
      | cons first front =>
          rcases hypothesis (List.cons_ne_nil _ _)
              (fun digit member =>
                allDigits digit (List.mem_append_left _ member))
              noZero with
            ⟨positive, front⟩
          rw [value]
          refine ⟨by omega, ?_⟩
          rw [← Nat.toDigits_append_toDigits (by decide) positive small, front,
            single]

/-- A whole number is written in one way. -/
theorem eq_toDigits_of_isWholeNumber
    {written : List Char}
    (whole : JsonToken.isWholeNumber written = true) :
    written = Nat.toDigits 10 (numeralValue written) := by
  rw [JsonToken.isWholeNumber.eq_def] at whole
  split at whole
  · rfl
  · cases whole
  · rename_i other
    rw [JsonToken.isDigits, Bool.and_eq_true, Bool.not_eq_true',
      List.isEmpty_eq_false_iff] at whole
    refine
      (toDigits_numeralValue whole.1 (List.all_eq_true.1 whole.2) ?_).2.symm
    intro zero
    cases written with
    | nil => cases zero
    | cons first rest => exact other rest (by rw [Option.some.inj zero])

/-- A key is written for its number. -/
theorem written_of_formulaIdOfKey?
    {key : JsonText}
    {id : FormulaId}
    (read : formulaIdOfKey? key = some id) :
    key.written = Nat.toDigits 10 id.toNat := by
  rw [formulaIdOfKey?] at read
  split at read
  · rename_i whole
    simp only at read
    split at read
    · rename_i small
      cases read
      rw [UInt32.toNat_ofNat_of_lt' small, ← numeralValue_eq_ofDigitChars]
      exact eq_toDigits_of_isWholeNumber whole
    · cases read
  · cases read

theorem Table.written_of_entry?
    {member : JsonText × JsonValue}
    {entry : FormulaId × Definition}
    (read : entry? member = some entry) :
    member.1.written = Nat.toDigits 10 entry.1.toNat := by
  rcases Option.bind_eq_some_iff.1 read with ⟨id, key, rest⟩
  rcases Option.bind_eq_some_iff.1 rest with ⟨definition, _, same⟩
  cases same
  exact written_of_formulaIdOfKey? key

/-- The documents are tables with the same members in another order, whose keys differ. -/
inductive Table.Permuted : JsonValue → JsonValue → Prop where
  | intro
      {members permuted : List (JsonText × JsonValue)}
      (order : members.Perm permuted)
      (distinct : (members.map fun member => member.1.written).Nodup) :
      Permuted (.object members) (.object permuted)

/-- The documents are configurations that differ in the order of the members of their tables. -/
inductive Configuration.Permuted : JsonValue → JsonValue → Prop where
  | object
      {before behind : List (JsonText × JsonValue)}
      {key : JsonText}
      {table permuted : JsonValue}
      (named : key.meaning? = some "formulas")
      (tables : Table.Permuted table permuted) :
      Permuted (.object (before ++ (key, table) :: behind))
        (.object (before ++ (key, permuted) :: behind))
  | array
      (options : JsonValue)
      {table permuted : JsonValue}
      (tables : Table.Permuted table permuted) :
      Permuted (.array [options, table]) (.array [options, permuted])

/-- Tables with members in different orders are read alike. -/
theorem Table.Permuted.ofJson?_eq
    {left right : JsonValue}
    (permuted : Table.Permuted left right) :
    Table.ofJson? left = Table.ofJson? right := by
  cases permuted with
  | @intro members permuted order distinct =>
      rw [Table.ofJson?_eq, Table.ofJson?_eq, Table.listed?, Table.listed?,
        mapM_eq_ite, mapM_eq_ite, order.all_eq]
      split
      · refine
          congrArg some (Table.ofEntries_perm (order.filterMap _) ?_)
        rw [List.Nodup, List.pairwise_map, List.pairwise_filterMap]
        rw [List.Nodup, List.pairwise_map] at distinct
        apply distinct.imp
        intro first second differ left leftRead right rightRead same
        apply differ
        rw [Table.written_of_entry? leftRead, Table.written_of_entry? rightRead,
          same]
      · rfl

theorem namedMembers?_append_cons
    {before behind : List (JsonText × JsonValue)}
    {key : JsonText}
    {name : String}
    (named : key.meaning? = some name)
    (value : JsonValue) :
    namedMembers? (before ++ (key, value) :: behind) =
      (namedMembers? before).bind fun front =>
        (namedMembers? behind).map fun back =>
          front ++ (name, value) :: back := by
  have parts :
      namedMembers? (before ++ (key, value) :: behind) =
        (namedMembers? before).bind fun front =>
          ((namedMembers? behind).bind fun back =>
            some ((name, value) :: back)).bind fun back =>
              some (front ++ back) := by
    rw [namedMembers?, List.mapM_append, List.mapM_cons, named]
    rfl
  rw [parts]
  cases namedMembers? before with
  | none => rfl
  | some front =>
      cases namedMembers? behind with
      | none => rfl
      | some back => rfl

/-- A field with another name makes no difference to an optional field. -/
theorem optionalField?_append_cons
    {Value : Type}
    {names : List String}
    {name : String}
    (other : names.contains name = false)
    (front back : List (String × JsonValue))
    (value : JsonValue)
    (read : JsonValue → Option Value)
    (default : Value) :
    optionalField? (front ++ (name, value) :: back) names read default =
      optionalField? (front ++ back) names read default := by
  rw [optionalField?, optionalField?, List.filter_append, List.filter_append,
    List.filter_cons, other]
  rfl

/-- A required field is read from its value alone. -/
theorem requiredField?_congr
    {Value : Type}
    {left right : JsonValue}
    {read : JsonValue → Option Value}
    (same : read left = read right)
    (front back : List (String × JsonValue))
    (name : String) :
    requiredField? (front ++ (name, left) :: back) name read =
      requiredField? (front ++ (name, right) :: back) name read := by
  rw [requiredField?, requiredField?, List.filter_append, List.filter_append,
    List.filter_cons, List.filter_cons, beq_self_eq_true]
  simp only [if_true]
  cases front.filter fun member => member.1 == name with
  | nil =>
      cases back.filter fun member => member.1 == name with
      | nil => exact same
      | cons second others => rfl
  | cons first others =>
      cases others with
      | nil => rfl
      | cons second others => rfl

/-- Configurations whose tables have members in different orders are read alike. -/
theorem Configuration.Permuted.ofJson?_eq
    {left right : JsonValue}
    (permuted : Configuration.Permuted left right) :
    Configuration.ofJson? left = Configuration.ofJson? right := by
  cases permuted with
  | array options tables =>
      rw [Configuration.ofJson?, Configuration.ofJson?, tables.ofJson?_eq]
  | @object before behind key table permuted named tables =>
      rw [Configuration.ofJson?, Configuration.ofJson?,
        namedMembers?_append_cons named, namedMembers?_append_cons named]
      cases namedMembers? before with
      | none => rfl
      | some front =>
          cases namedMembers? behind with
          | none => rfl
          | some back =>
              simp only [Option.bind_eq_bind, Option.map_some, Option.bind_some]
              rw [optionalField?_append_cons rfl, optionalField?_append_cons rfl,
                requiredField?_congr tables.ofJson?_eq]

end Formulary
