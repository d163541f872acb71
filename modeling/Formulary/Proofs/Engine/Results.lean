import Mathlib.Algebra.BigOperators.Group.Finset.Basic
import Mathlib.Data.List.Induction
import Formulary.Engine.Event
import Formulary.Engine.ResultCache
import Formulary.Proofs.Formula.Legibility
import Formulary.Proofs.Number.Equality

/-!
# The cache of results as a finite map

A result is kept under a number and the numeric values of its arguments:
`CachedResult.key`.  Behind any list of insertions the keys of the cache are
those that were inserted, each once, and under each of them stands the value
that was inserted last.  The numbers of entries are counted with them.

The text of an argument list joins the texts of its values by underscores.  It
identifies the list up to numeric equality, so it would serve as a key as well.
-/

namespace Formulary

deriving instance DecidableEq for Number.Key

/-! ## Lists without repetitions -/

section

variable {α β : Type}

/-- Repetitions are the same before and behind a map that keeps equality. -/
theorem eraseDups_map_of_beq
    [BEq α] [BEq β]
    {f : α → β}
    (same : ∀ left right, (f left == f right) = (left == right))
    (list : List α) :
    (list.map f).eraseDups = list.eraseDups.map f := by
  induction length : list.length using Nat.strongRecOn generalizing list with
  | ind length hypothesis =>
      subst length
      cases list with
      | nil => rfl
      | cons first list =>
          have others :
              (list.map f).filter (fun value => !value == f first) =
                (list.filter fun value => !value == first).map f := by
            rw [List.filter_map]
            simp only [Function.comp_def, same]
          have fewer :
              (list.filter fun value => !value == first).length <
                (first :: list).length :=
            Nat.lt_succ_of_le (List.length_filter_le _ _)
          rw [List.map_cons, List.eraseDups_cons, List.eraseDups_cons, others,
            hypothesis _ fewer _ rfl, List.map_cons]

/-- It does not matter whether repetitions are left out before or behind a filter. -/
theorem filter_eraseDups
    [BEq α] [LawfulBEq α]
    (keep : α → Bool)
    (list : List α) :
    list.eraseDups.filter keep = (list.filter keep).eraseDups := by
  induction length : list.length using Nat.strongRecOn generalizing list with
  | ind length hypothesis =>
      subst length
      cases list with
      | nil => rfl
      | cons first list =>
          have fewer :
              (list.filter fun value => !value == first).length <
                (first :: list).length :=
            Nat.lt_succ_of_le (List.length_filter_le _ _)
          rw [List.eraseDups_cons, List.filter_cons, List.filter_cons,
            hypothesis _ fewer _ rfl, List.filter_filter]
          by_cases kept : keep first = true
          · rw [if_pos kept, if_pos kept, List.eraseDups_cons,
              List.filter_filter]
            simp only [Bool.and_comm]
          · rw [if_neg kept, if_neg kept]
            congr 1
            apply List.filter_congr
            intro value _
            by_cases isFirst : value = first
            · rw [isFirst, Bool.eq_false_iff.2 kept, Bool.false_and]
            · rw [beq_false_of_ne isFirst, Bool.not_false, Bool.and_true]

/-- One more element counts as a repetition or stands at the end. -/
theorem eraseDups_concat
    [BEq α] [LawfulBEq α]
    (list : List α)
    (last : α) :
    (list ++ [last]).eraseDups =
      if last ∈ list then list.eraseDups else list.eraseDups ++ [last] := by
  rw [List.eraseDups_append, List.removeAll, List.filter_cons, List.filter_nil]
  by_cases member : last ∈ list
  · simp [member]
  · simp [member, List.eraseDups_cons]

end

/-! ## Keys -/

namespace CachedResult

/-- What a result is kept under: its number and the numeric values of its arguments. -/
def key (result : CachedResult) : FormulaId × List Number.Key :=
  (result.id, result.arguments.map Number.key)

theorem answers_iff_key
    (result : CachedResult)
    (id : FormulaId)
    (arguments : List Number) :
    result.answers id arguments = true ↔
      result.key = (id, arguments.map Number.key) := by
  rw [answers, Bool.and_eq_true, beq_iff_eq, Number.beq_iff_keys, key,
    Prod.mk.injEq]

/-- The result is kept under a number and as many arguments, whose values are equal one by one. -/
structure IsUnder
    (result : CachedResult)
    (id : FormulaId)
    (arguments : List Number) :
    Prop where
  id_eq : result.id = id
  length_eq : result.arguments.length = arguments.length
  values_eq :
    ∀ pair ∈ result.arguments.zip arguments, (pair.1 == pair.2) = true

end CachedResult

/-- Argument lists are equal if they are as long and have equal values one by one. -/
theorem Number.beq_iff_zip
    (left right : List Number) :
    (left == right) = true ↔
      left.length = right.length ∧
        ∀ pair ∈ left.zip right, (pair.1 == pair.2) = true := by
  induction left generalizing right with
  | nil =>
      cases right with
      | nil => simp
      | cons number numbers => simp
  | cons first left hypothesis =>
      cases right with
      | nil => simp
      | cons number numbers =>
          rw [List.cons_beq_cons, Bool.and_eq_true, hypothesis,
            List.zip_cons_cons, List.forall_mem_cons, List.length_cons,
            List.length_cons, Nat.add_right_cancel_iff, and_left_comm]

theorem CachedResult.answers_iff_isUnder
    (result : CachedResult)
    (id : FormulaId)
    (arguments : List Number) :
    result.answers id arguments = true ↔ result.IsUnder id arguments := by
  rw [answers, Bool.and_eq_true, beq_iff_eq, Number.beq_iff_zip]
  exact
    ⟨fun same => ⟨same.1, same.2.1, same.2.2⟩, fun under =>
      ⟨under.id_eq, under.length_eq, under.values_eq⟩⟩

/-! ## One insertion -/

namespace ResultCache

/-- The keys of the results. -/
def keys (cache : ResultCache) : List (FormulaId × List Number.Key) :=
  cache.entries.map CachedResult.key

theorem map_key_insertEntry
    (added : CachedResult)
    (entries : List CachedResult) :
    (insertEntry added entries).map CachedResult.key =
      if added.key ∈ entries.map CachedResult.key then
        entries.map CachedResult.key
      else
        entries.map CachedResult.key ++ [added.key] := by
  induction entries with
  | nil => rfl
  | cons entry entries hypothesis =>
      rw [insertEntry, List.map_cons]
      by_cases same : entry.key = added.key
      · rw [if_pos ((entry.answers_iff_key _ _).2 same),
          if_pos (by rw [same]; exact List.mem_cons_self)]
        rfl
      · have other : added.key ≠ entry.key := Ne.symm same
        rw [if_neg fun answers => same ((entry.answers_iff_key _ _).1 answers),
          List.map_cons, hypothesis]
        simp only [List.mem_cons, other, false_or]
        split
        · rfl
        · rfl

/-- A result that is added has its key in the cache, and no other key comes or goes. -/
theorem keys_insert
    (cache : ResultCache)
    (added : CachedResult) :
    (cache.insert added.id added.arguments added.value).keys =
      if added.key ∈ cache.keys then
        cache.keys
      else
        cache.keys ++ [added.key] :=
  map_key_insertEntry added cache.entries

theorem find?_insertEntry
    (added : CachedResult)
    (entries : List CachedResult)
    (id : FormulaId)
    (arguments : List Number) :
    ((insertEntry added entries).find? (·.answers id arguments)).map
        CachedResult.value =
      if added.answers id arguments then
        some added.value
      else
        (entries.find? (·.answers id arguments)).map CachedResult.value := by
  induction entries with
  | nil =>
      rw [insertEntry, List.find?_singleton]
      split
      · rfl
      · rfl
  | cons entry entries hypothesis =>
      rw [insertEntry]
      by_cases same : entry.answers added.id added.arguments = true
      · -- The replaced entry is found exactly where the added one would be.
        have alike :
            entry.answers id arguments = added.answers id arguments := by
          rw [Bool.eq_iff_iff, entry.answers_iff_key, added.answers_iff_key,
            (entry.answers_iff_key _ _).1 same, CachedResult.key]
        have kept :
            CachedResult.answers { entry with value := added.value } id
                arguments =
              entry.answers id arguments :=
          rfl
        rw [if_pos same, List.find?_cons, List.find?_cons, kept, alike]
        cases added.answers id arguments with
        | true => rfl
        | false => rfl
      · rw [if_neg same, List.find?_cons, List.find?_cons]
        cases found : entry.answers id arguments with
        | false => exact hypothesis
        | true =>
            have differs : ¬added.answers id arguments = true := by
              intro answers
              apply same
              rw [entry.answers_iff_key, (entry.answers_iff_key _ _).1 found]
              exact ((added.answers_iff_key _ _).1 answers).symm
            rw [if_neg differs]

/-- A result that is added is found under its key, and the others stay what they are. -/
theorem get?_insert
    (cache : ResultCache)
    (added : CachedResult)
    (id : FormulaId)
    (arguments : List Number) :
    (cache.insert added.id added.arguments added.value).get? id arguments =
      if added.answers id arguments then
        some added.value
      else
        cache.get? id arguments :=
  find?_insertEntry added cache.entries id arguments

/-! ## Lists of insertions -/

/-- The cache behind a list of insertions. -/
def ofInserts (inserts : List CachedResult) : ResultCache :=
  inserts.foldl
    (fun cache added => cache.insert added.id added.arguments added.value)
    empty

theorem ofInserts_concat
    (inserts : List CachedResult)
    (last : CachedResult) :
    ofInserts (inserts ++ [last]) =
      (ofInserts inserts).insert last.id last.arguments last.value := by
  rw [ofInserts, List.foldl_append]
  rfl

/-- The keys of a cache are those that were inserted, each once. -/
theorem keys_ofInserts
    (inserts : List CachedResult) :
    (ofInserts inserts).keys =
      (inserts.map CachedResult.key).eraseDups := by
  induction inserts using List.reverseRecOn with
  | nil => rfl
  | append_singleton inserts last hypothesis =>
      rw [ofInserts_concat, keys_insert, hypothesis, List.map_append,
        List.map_singleton, eraseDups_concat]
      simp only [List.mem_eraseDups]

/-- What is found is the value of the last insertion under the key. -/
theorem get?_ofInserts
    (inserts : List CachedResult)
    (id : FormulaId)
    (arguments : List Number) :
    (ofInserts inserts).get? id arguments =
      (inserts.reverse.find? (·.answers id arguments)).map
        CachedResult.value := by
  induction inserts using List.reverseRecOn with
  | nil => rfl
  | append_singleton inserts last hypothesis =>
      rw [ofInserts_concat, get?_insert, hypothesis, List.reverse_concat,
        List.find?_cons]
      cases last.answers id arguments with
      | true => rfl
      | false => rfl

/-! ## The number of results -/

/-- The argument lists of the insertions for a formula. -/
def argumentsFor (id : FormulaId) (inserts : List CachedResult) : List (List Number) :=
  (inserts.filter (·.id == id)).map CachedResult.arguments

/-- The keys of one formula are its argument lists, with its number. -/
theorem filter_map_key
    (id : FormulaId)
    (inserts : List CachedResult) :
    (inserts.map CachedResult.key).filter (·.1 == id) =
      (argumentsFor id inserts).map fun arguments =>
        (id, arguments.map Number.key) := by
  rw [List.filter_map, argumentsFor, List.map_map]
  apply List.map_congr_left
  intro inserted member
  have named : inserted.id = id := by
    simpa [CachedResult.key] using (List.mem_filter.1 member).2
  rw [CachedResult.key, named]
  rfl

/-- A formula has as many results as different argument lists were inserted for it. -/
theorem sizeFor_ofInserts
    (inserts : List CachedResult)
    (id : FormulaId) :
    (ofInserts inserts).sizeFor id =
      (argumentsFor id inserts).eraseDups.length := by
  have sameKeys
      (left right : List Number) :
      ((id, left.map Number.key) == (id, right.map Number.key)) =
        (left == right) := by
    rw [Bool.eq_iff_iff, beq_iff_eq, Number.beq_iff_keys, Prod.mk.injEq]
    exact ⟨And.right, And.intro rfl⟩
  calc
    (ofInserts inserts).sizeFor id =
        ((ofInserts inserts).keys.filter (·.1 == id)).length := by
      rw [sizeFor, ← List.countP_eq_length_filter, keys, List.countP_map]
      rfl
    _ = ((inserts.map CachedResult.key).filter (·.1 == id)).eraseDups.length := by
      rw [keys_ofInserts, filter_eraseDups]
    _ = (argumentsFor id inserts).eraseDups.length := by
      rw [filter_map_key, eraseDups_map_of_beq sameKeys, List.length_map]

/-- The formulas that have results are those for which some were inserted. -/
theorem toFinset_ids_ofInserts
    (inserts : List CachedResult) :
    ((ofInserts inserts).entries.map CachedResult.id).toFinset =
      (inserts.map CachedResult.id).toFinset := by
  have ids (results : List CachedResult) :
      results.map CachedResult.id =
        (results.map CachedResult.key).map Prod.fst := by
    rw [List.map_map]
    rfl
  have sameKeys := keys_ofInserts inserts
  rw [keys] at sameKeys
  ext id
  rw [List.mem_toFinset, List.mem_toFinset, ids, ids, sameKeys, List.mem_map,
    List.mem_map]
  simp only [List.mem_eraseDups]

/-- There are as many results as all formulas have together. -/
theorem size_ofInserts
    (inserts : List CachedResult) :
    (ofInserts inserts).size =
      ∑ id ∈ (inserts.map CachedResult.id).toFinset,
        (ofInserts inserts).sizeFor id := by
  have counted :=
    List.sum_toFinset_count_eq_length
      ((ofInserts inserts).entries.map CachedResult.id)
  rw [List.length_map, toFinset_ids_ofInserts] at counted
  rw [size, ← counted]
  apply Finset.sum_congr rfl
  intro id _
  rw [sizeFor, List.count, List.countP_map]
  rfl

theorem isEmpty_ofInserts
    (inserts : List CachedResult) :
    (ofInserts inserts).isEmpty = true ↔ inserts = [] := by
  have length : (ofInserts inserts).size = (ofInserts inserts).keys.length := by
    rw [keys, List.length_map, size]
  rw [isEmpty, beq_iff_eq, length, keys_ofInserts]
  cases inserts with
  | nil => simp
  | cons first inserts => simp [List.eraseDups_cons]

end ResultCache

/-! ## The text of argument lists -/

theorem Number.text_ne_nil
    (number : Number) :
    number.text ≠ [] := by
  rcases number.exists_text with ⟨sign, row, text, _, nonempty, _⟩
  rw [text]
  exact List.append_ne_nil_of_right_ne_nil sign nonempty

/-- The underscore is in no number. -/
theorem Number.underscore_not_mem_text
    (number : Number) :
    '_' ∉ number.text := by
  rcases number.exists_text with ⟨sign, row, text, isSign, _, inWord⟩
  rw [text]
  intro member
  rcases List.mem_append.1 member with inSign | inRow
  · cases isSign with
    | none => exact absurd inSign List.not_mem_nil
    | minus => exact absurd (List.mem_singleton.1 inSign) (by decide)
  · exact absurd (inWord '_' inRow) (by decide)

theorem toList_argumentsText
    (arguments : List Number) :
    (argumentsText arguments).toList =
      ['_'].intercalate (arguments.map Number.text) := by
  have texts :
      String.toList ∘ (toString : Number → String) = Number.text :=
    funext fun _ => String.toList_ofList
  rw [argumentsText, String.toList_intercalate, List.map_map, texts]
  rfl

/-- The texts of the values of an argument list are read off its text. -/
theorem splitOn_argumentsText
    {arguments : List Number}
    (nonempty : arguments ≠ []) :
    (argumentsText arguments).toList.splitOn '_' =
      arguments.map Number.text := by
  rw [toList_argumentsText]
  apply List.splitOn_intercalate
  · intro text member
    rcases List.mem_map.1 member with ⟨number, _, rfl⟩
    exact number.underscore_not_mem_text
  · exact fun none => nonempty (List.map_eq_nil_iff.1 none)

/-- Only the empty argument list has the empty text. -/
theorem argumentsText_eq_empty_iff
    (arguments : List Number) :
    argumentsText arguments = "" ↔ arguments = [] := by
  constructor
  · intro empty
    by_contra nonempty
    have texts := splitOn_argumentsText nonempty
    rw [empty] at texts
    have member : [] ∈ arguments.map Number.text := by
      rw [← texts]
      exact List.mem_singleton_self []
    rcases List.mem_map.1 member with ⟨number, _, none⟩
    exact number.text_ne_nil none
  · rintro rfl
    rfl

/-- Argument lists have one text exactly if they are equal. -/
theorem argumentsText_eq_iff
    (left right : List Number) :
    argumentsText left = argumentsText right ↔ (left == right) = true := by
  rw [Number.beq_iff_keys]
  constructor
  · intro same
    by_cases empty : left = []
    · have none : right = [] := by
        rw [← argumentsText_eq_empty_iff, ← same, argumentsText_eq_empty_iff]
        exact empty
      rw [empty, none]
    · have some : right ≠ [] := by
        rwa [Ne, ← argumentsText_eq_empty_iff, ← same,
          argumentsText_eq_empty_iff]
      have texts := splitOn_argumentsText empty
      rw [same, splitOn_argumentsText some] at texts
      have keys := congrArg (List.map fun text => (Number.ofText text).key) texts
      rw [List.map_map, List.map_map] at keys
      simpa [Function.comp_def, Number.key_ofText_text] using keys.symm
  · intro same
    have factors : Number.text.FactorsThrough Number.key :=
      fun _ _ => Number.text_eq_of_key_eq
    rcases (Function.factorsThrough_iff _).1 factors with ⟨spelling, through⟩
    rw [← String.toList_inj, toList_argumentsText, toList_argumentsText,
      through, ← List.map_map, ← List.map_map, same]

/--
Behind any list of insertions the cache of results is a finite map.  Under a
number and an argument list it has the value of the last insertion with the
same number and with as many, pairwise equal values, and nothing if there was
none.  A formula has as many results as different argument lists were inserted
for it, the cache has those of all formulas, and is empty only if nothing was
inserted.  The texts of two argument lists are the same exactly if the lists
are equal.
-/
theorem ResultCache.ofInserts_isMap
    (inserts : List CachedResult) :
    let cache := ofInserts inserts
    (∀ id arguments value,
      cache.get? id arguments = some value ↔
        ∃ before last later,
          inserts = before ++ last :: later ∧
            last.IsUnder id arguments ∧
              last.value = value ∧
                ∀ other ∈ later, ¬other.IsUnder id arguments) ∧
      (∀ id arguments,
        cache.get? id arguments = none ↔
          ∀ inserted ∈ inserts, ¬inserted.IsUnder id arguments) ∧
        (∀ id,
          cache.sizeFor id = (argumentsFor id inserts).eraseDups.length) ∧
          cache.size =
              ∑ id ∈ (inserts.map CachedResult.id).toFinset,
                cache.sizeFor id ∧
            (cache.isEmpty = true ↔ inserts = []) ∧
              ∀ left right : List Number,
                argumentsText left = argumentsText right ↔
                  (left == right) = true := by
  refine
    ⟨?_, ?_, sizeFor_ofInserts inserts, size_ofInserts inserts,
      isEmpty_ofInserts inserts, argumentsText_eq_iff⟩
  · intro id arguments value
    rw [get?_ofInserts, Option.map_eq_some_iff]
    constructor
    · rintro ⟨last, found, rfl⟩
      rcases List.find?_eq_some_iff_append.1 found with
        ⟨answers, later, before, split, others⟩
      refine
        ⟨before.reverse, last, later.reverse, ?_,
          (last.answers_iff_isUnder _ _).1 answers, rfl, ?_⟩
      · rw [← List.reverse_inj, split]
        simp
      · intro other member under
        have silent := others other (List.mem_reverse.1 member)
        rw [(other.answers_iff_isUnder _ _).2 under] at silent
        cases silent
    · rintro ⟨before, last, later, rfl, under, rfl, others⟩
      refine ⟨last, ?_, rfl⟩
      apply List.find?_eq_some_iff_append.2
      refine
        ⟨(last.answers_iff_isUnder _ _).2 under, later.reverse,
          before.reverse, by simp, ?_⟩
      intro other member
      rw [Bool.not_eq_true', Bool.eq_false_iff, Ne,
        other.answers_iff_isUnder]
      exact others other (List.mem_reverse.1 member)
  · intro id arguments
    rw [get?_ofInserts, Option.map_eq_none_iff, List.find?_eq_none]
    simp only [List.mem_reverse, CachedResult.answers_iff_isUnder]

end Formulary
