import Formulary.Proofs.Configuration.Members

/-!
# What loading validates

Loading looks at the definitions that survive in a table alone.  It succeeds
exactly if none of them repeats a parameter, and otherwise names the first
repetition in the definition with the lowest number: `LoadsSurviving`.  Neither
superseded definitions nor the order of the others make a difference, as
`load_validates_surviving` says of tables and configurations.
-/

namespace Formulary

/-! ## Repeated names -/

/-- A name is the first repeated one if it was there before, and those in front of it differ. -/
theorem firstRepeated?_eq_some_iff
    {seen names : List String}
    {name : String} :
    firstRepeated? seen names = some name ↔
      ∃ before behind,
        names = before ++ name :: behind ∧
          (name ∈ before ∨ name ∈ seen) ∧
            before.Nodup ∧ ∀ other ∈ before, other ∉ seen := by
  induction names generalizing seen with
  | nil =>
      refine ⟨nofun, ?_⟩
      rintro ⟨before, behind, split, _⟩
      exact absurd split (by simp)
  | cons first names hypothesis =>
      rw [firstRepeated?]
      split
      · rename_i known
        constructor
        · intro found
          cases found
          exact ⟨[], names, rfl, .inr known, List.nodup_nil, nofun⟩
        · rintro ⟨before, behind, split, _, _, fresh⟩
          cases before with
          | nil => rw [(List.cons.inj split).1]
          | cons head before =>
              rw [(List.cons.inj split).1] at known
              exact absurd known (fresh head List.mem_cons_self)
      · rename_i unknown
        rw [hypothesis]
        constructor
        · rintro ⟨before, behind, rfl, earlier, distinct, fresh⟩
          refine ⟨first :: before, behind, rfl, ?_, ?_, ?_⟩
          · rcases earlier with inside | inSeen
            · exact .inl (List.mem_cons_of_mem _ inside)
            · rcases List.mem_cons.1 inSeen with rfl | old
              · exact .inl List.mem_cons_self
              · exact .inr old
          · refine List.nodup_cons.2 ⟨?_, distinct⟩
            exact fun member => fresh first member List.mem_cons_self
          · intro other member
            rcases List.mem_cons.1 member with rfl | inside
            · exact unknown
            · exact fun old => fresh other inside (List.mem_cons_of_mem _ old)
        · rintro ⟨before, behind, split, earlier, distinct, fresh⟩
          cases before with
          | nil =>
              rcases earlier with inside | old
              · exact absurd inside List.not_mem_nil
              · rw [← (List.cons.inj split).1] at old
                exact absurd old unknown
          | cons head before =>
              obtain ⟨rfl, rfl⟩ := List.cons.inj split
              rcases List.nodup_cons.1 distinct with ⟨notAgain, distinct⟩
              refine ⟨before, behind, rfl, ?_, distinct, ?_⟩
              · rcases earlier with inside | old
                · rcases List.mem_cons.1 inside with rfl | behindHead
                  · exact .inr List.mem_cons_self
                  · exact .inl behindHead
                · exact .inr (List.mem_cons_of_mem _ old)
              · intro other inside old
                rcases List.mem_cons.1 old with rfl | inSeen
                · exact notAgain inside
                · exact fresh other (List.mem_cons_of_mem _ inside) inSeen

theorem firstRepeated?_eq_none_iff
    {seen names : List String} :
    firstRepeated? seen names = none ↔
      names.Nodup ∧ ∀ name ∈ names, name ∉ seen := by
  induction names generalizing seen with
  | nil => exact ⟨fun _ => ⟨List.nodup_nil, nofun⟩, fun _ => rfl⟩
  | cons first names hypothesis =>
      rw [firstRepeated?, List.nodup_cons, List.forall_mem_cons]
      split
      · rename_i known
        exact ⟨nofun, fun distinct => absurd known distinct.2.1⟩
      · rename_i unknown
        rw [hypothesis]
        constructor
        · rintro ⟨distinct, fresh⟩
          refine ⟨⟨?_, distinct⟩, unknown, ?_⟩
          · exact fun member => fresh first member List.mem_cons_self
          · exact fun name member old =>
              fresh name member (List.mem_cons_of_mem _ old)
        · rintro ⟨⟨notAgain, distinct⟩, _, fresh⟩
          refine ⟨distinct, ?_⟩
          intro name member old
          rcases List.mem_cons.1 old with rfl | inSeen
          · exact notAgain member
          · exact fresh name member inSeen

namespace Definition

/-- The name is the earliest parameter that equals one in front of it. -/
def FirstRepeats (definition : Definition) (name : String) : Prop :=
  ∃ before behind,
    definition.parameters = before ++ name :: behind ∧
      name ∈ before ∧ before.Nodup

theorem FirstRepeats.not_nodup
    {definition : Definition}
    {name : String}
    (first : definition.FirstRepeats name) :
    ¬definition.parameters.Nodup := by
  rcases first with ⟨before, behind, split, earlier, _⟩
  rw [split, List.nodup_append]
  exact fun distinct => distinct.2.2 name earlier name List.mem_cons_self rfl

theorem repeated?_eq_none_iff
    {definition : Definition} :
    definition.repeated? = none ↔ definition.parameters.Nodup := by
  rw [repeated?, Option.map_eq_none_iff, firstRepeated?_eq_none_iff]
  exact ⟨And.left, fun distinct => ⟨distinct, fun _ _ => List.not_mem_nil⟩⟩

theorem repeated?_eq_some_iff
    {definition : Definition}
    {fault : RepeatedParameter} :
    definition.repeated? = some fault ↔
      definition.FirstRepeats fault.name ∧
        fault.expression = definition.expression := by
  rw [repeated?, Option.map_eq_some_iff]
  constructor
  · rintro ⟨name, found, rfl⟩
    rcases firstRepeated?_eq_some_iff.1 found with
      ⟨before, behind, split, earlier, distinct, _⟩
    exact
      ⟨⟨before, behind, split, earlier.resolve_right List.not_mem_nil,
        distinct⟩, rfl⟩
  · rintro ⟨⟨before, behind, split, earlier, distinct⟩, same⟩
    refine ⟨fault.name, ?_, by rw [← same]⟩
    exact
      firstRepeated?_eq_some_iff.2
        ⟨before, behind, split, .inl earlier, distinct,
          fun _ _ => List.not_mem_nil⟩

end Definition

/-! ## The repetitions of a table -/

/-- A table without repetitions has none in any of its definitions. -/
theorem Table.Ascending.repeated?_eq_none_iff
    {table : Table}
    (ascending : table.Ascending) :
    table.repeated? = none ↔
      ∀ id definition,
        table.get? id = some definition → definition.parameters.Nodup := by
  rw [repeated?, List.findSome?_eq_none_iff]
  constructor
  · intro sound id definition found
    rw [← ascending.mem_iff] at found
    exact Definition.repeated?_eq_none_iff.1 (sound _ found)
  · rintro sound ⟨id, definition⟩ member
    rw [ascending.mem_iff] at member
    exact Definition.repeated?_eq_none_iff.2 (sound id definition member)

/-- The first repetition that is found is that of the lowest number with one. -/
theorem Table.Ascending.repeated?_eq_some_iff
    {table : Table}
    (ascending : table.Ascending)
    (fault : RepeatedParameter) :
    table.repeated? = some fault ↔
      ∃ id definition,
        table.get? id = some definition ∧
          definition.repeated? = some fault ∧
            ∀ lower other,
              lower < id →
                table.get? lower = some other → other.repeated? = none := by
  rw [repeated?, List.findSome?_eq_some_iff]
  constructor
  · rintro ⟨before, ⟨id, definition⟩, behind, split, found, others⟩
    refine ⟨id, definition, ?_, found, ?_⟩
    · rw [← ascending.mem_iff, split]
      exact List.mem_append_right _ List.mem_cons_self
    · intro lower other below listed
      rw [← ascending.mem_iff, split] at listed
      rw [Ascending, split] at ascending
      rcases List.pairwise_append.1 ascending with ⟨_, fromHere, _⟩
      rcases List.pairwise_cons.1 fromHere with ⟨above, _⟩
      rcases List.mem_append.1 listed with inFront | notInFront
      · exact others _ inFront
      · rcases List.mem_cons.1 notInFront with same | later
        · cases same
          exact absurd below (UInt32.lt_irrefl _)
        · exact absurd below (UInt32.lt_asymm (above _ later))
  · rintro ⟨id, definition, listed, found, lower⟩
    rw [← ascending.mem_iff] at listed
    rcases List.append_of_mem listed with ⟨before, behind, split⟩
    refine ⟨before, (id, definition), behind, split, found, ?_⟩
    rintro ⟨number, other⟩ inFront
    have member : (number, other) ∈ table.entries := by
      rw [split]
      exact List.mem_append_left _ inFront
    have found := ascending.mem_iff.1 member
    rw [Ascending, split] at ascending
    rcases List.pairwise_append.1 ascending with ⟨_, _, across⟩
    exact lower number other (across _ inFront _ List.mem_cons_self) found

/-! ## The outcome of loading -/

/--
Loading looks at the surviving definitions alone: it succeeds if none of them
repeats a parameter, with the surviving definitions in the table of the result.
Otherwise it names the first repetition in the one with the lowest number.
-/
structure LoadsSurviving
    {Loaded : Type}
    (entries : List (FormulaId × Definition))
    (table : Loaded → Table)
    (outcome : Except ConfigurationError Loaded) :
    Prop where
  isOk_iff :
    (∃ loaded, outcome = .ok loaded) ↔
      ∀ id definition,
        Survives entries id definition → definition.parameters.Nodup
  get?_iff :
    ∀ loaded,
      outcome = .ok loaded →
        ∀ id definition,
          (table loaded).get? id = some definition ↔
            Survives entries id definition
  error_iff :
    ∀ error,
      outcome = .error error ↔
        ∃ id definition name,
          error = .repeatedParameter ⟨name, definition.expression⟩ ∧
            Survives entries id definition ∧
              definition.FirstRepeats name ∧
                ∀ lower other,
                  lower < id →
                    Survives entries lower other → other.parameters.Nodup

theorem loadsSurviving_of_validate
    {Loaded : Type}
    {entries : List (FormulaId × Definition)}
    {table : Loaded → Table}
    {loaded : Loaded}
    (holds : table loaded = Table.ofEntries entries) :
    LoadsSurviving entries table
      ((table loaded).validate.map fun _ => loaded) := by
  have ascending := Table.ascending_ofEntries entries
  have sound := ascending.repeated?_eq_none_iff
  have faulty := ascending.repeated?_eq_some_iff
  simp only [Table.get?_ofEntries_eq_some_iff] at sound faulty
  rw [holds, Table.validate]
  cases repetition : (Table.ofEntries entries).repeated? with
  | none =>
      rw [repetition] at sound faulty
      refine ⟨⟨fun _ => sound.1 rfl, fun _ => ⟨loaded, rfl⟩⟩, ?_, ?_⟩
      · rintro _ same id definition
        cases same
        rw [holds]
        exact Table.get?_ofEntries_eq_some_iff
      · intro error
        constructor
        · intro same
          cases same
        · rintro ⟨id, definition, name, _, survives, first, _⟩
          exact absurd (sound.1 rfl id definition survives) first.not_nodup
  | some fault =>
      rw [repetition] at sound
      refine ⟨⟨?_, ?_⟩, ?_, ?_⟩
      · rintro ⟨_, same⟩
        cases same
      · intro distinct
        cases sound.2 distinct
      · intro _ same
        cases same
      · intro error
        constructor
        · intro same
          cases same
          rcases (faulty fault).1 repetition with
            ⟨id, definition, survives, found, lower⟩
          rcases Definition.repeated?_eq_some_iff.1 found with ⟨first, same⟩
          refine ⟨id, definition, fault.name, by rw [← same], survives, first, ?_⟩
          intro number other below listed
          exact
            Definition.repeated?_eq_none_iff.1 (lower number other below listed)
        · rintro ⟨id, definition, name, rfl, survives, first, lower⟩
          have found :
              (Table.ofEntries entries).repeated? =
                some ⟨name, definition.expression⟩ := by
            refine
              (faulty _).2
                ⟨id, definition, survives,
                  Definition.repeated?_eq_some_iff.2 ⟨first, rfl⟩, ?_⟩
            intro number other below listed
            exact
              Definition.repeated?_eq_none_iff.2 (lower number other below listed)
          rw [repetition] at found
          cases found
          rfl

/-! ## Loading -/

/-- A text that is a table is loaded by its surviving definitions. -/
theorem Table.loadsSurviving
    {text : String}
    (decodes : (JsonValue.ofString? text >>= ofJson?).isSome = true) :
    ∃ document entries,
      JsonValue.ofString? text = some document ∧
        listed? document = some entries ∧
          LoadsSurviving entries (fun table => table) (load text) := by
  rcases Option.isSome_iff_exists.1 decodes with ⟨table, found⟩
  rcases Option.bind_eq_some_iff.1 found with ⟨document, read, meant⟩
  rw [ofJson?_eq] at meant
  rcases Option.map_eq_some_iff.1 meant with ⟨entries, listed, rfl⟩
  refine ⟨document, entries, read, listed, ?_⟩
  rw [load, found]
  exact loadsSurviving_of_validate rfl

/-- A text that is a configuration is loaded by the surviving definitions of its table. -/
theorem Configuration.loadsSurviving
    {text : String}
    (decodes : (JsonValue.ofString? text >>= ofJson?).isSome = true) :
    ∃ document table entries,
      JsonValue.ofString? text = some document ∧
        table? document = some table ∧
          Table.listed? table = some entries ∧
            LoadsSurviving entries Configuration.formulas (load text) := by
  rcases Option.isSome_iff_exists.1 decodes with ⟨configuration, found⟩
  rcases Option.bind_eq_some_iff.1 found with ⟨document, read, meant⟩
  rcases Option.bind_eq_some_iff.1 (formulas_of_ofJson? meant) with
    ⟨table, inside, formulas⟩
  rw [Table.ofJson?_eq] at formulas
  rcases Option.map_eq_some_iff.1 formulas with ⟨entries, listed, holds⟩
  refine ⟨document, table, entries, read, inside, listed, ?_⟩
  rw [load, found]
  exact loadsSurviving_of_validate holds.symm

/--
A document that is a table or a configuration is loaded by the definitions
that survive in it, the last ones with their numbers.  Loading succeeds exactly
if none of them repeats a parameter, and fails otherwise with the first
repetition in the one with the lowest number.  The members of the table may be
in any order if their keys differ.
-/
theorem load_validates_surviving :
    (∀ text,
      (JsonValue.ofString? text >>= Table.ofJson?).isSome = true →
        ∃ document entries,
          JsonValue.ofString? text = some document ∧
            Table.listed? document = some entries ∧
              LoadsSurviving entries (fun table => table)
                (Table.load text)) ∧
      (∀ text,
        (JsonValue.ofString? text >>= Configuration.ofJson?).isSome = true →
          ∃ document table entries,
            JsonValue.ofString? text = some document ∧
              Configuration.table? document = some table ∧
                Table.listed? table = some entries ∧
                  LoadsSurviving entries Configuration.formulas
                    (Configuration.load text)) ∧
        ∀ left right leftDocument rightDocument,
          JsonValue.ofString? left = some leftDocument →
            JsonValue.ofString? right = some rightDocument →
              (Table.Permuted leftDocument rightDocument →
                Table.load left = Table.load right) ∧
                (Configuration.Permuted leftDocument rightDocument →
                  Configuration.load left = Configuration.load right) := by
  refine ⟨?_, ?_, ?_⟩
  · exact fun text decodes => Table.loadsSurviving decodes
  · exact fun text decodes => Configuration.loadsSurviving decodes
  · intro left right leftDocument rightDocument leftRead rightRead
    constructor
    · intro permuted
      rw [Table.load, Table.load, leftRead, rightRead, Option.bind_eq_bind,
        Option.bind_some, Option.bind_some, permuted.ofJson?_eq]
    · intro permuted
      rw [Configuration.load, Configuration.load, leftRead, rightRead,
        Option.bind_eq_bind, Option.bind_some, Option.bind_some,
        permuted.ofJson?_eq]

/--
A repetition in a superseded definition does not count, and of two others the
lower one does.  Two members may change places.  All of this holds of a table
by itself and of the same table in a configuration.
-/
theorem load_validates_surviving_of_superseded :
    let text :=
      "\x7b\"3\":[\"a\",[\"b\",\"a\",\"b\",\"a\"]]," ++
        "\"1\":[\"c\",[\"c\",\"c\"]]," ++
        "\"2\":[\"d\",[\"x\",\"y\",\"y\",\"x\"]]," ++
        "\"1\":[\"c\",[\"c\"]]\x7d"
    let entries : List (FormulaId × Definition) :=
      [(3, ⟨"a", ["b", "a", "b", "a"]⟩), (1, ⟨"c", ["c", "c"]⟩),
        (2, ⟨"d", ["x", "y", "y", "x"]⟩), (1, ⟨"c", ["c"]⟩)]
    let fault := ConfigurationError.repeatedParameter ⟨"y", "d"⟩
    let ascending := "\x7b\"1\":[\"a\"],\"2\":[\"b\"]\x7d"
    let descending := "\x7b\"2\":[\"b\"],\"1\":[\"a\"]\x7d"
    let configured (table : String) := "\x7b\"formulas\":" ++ table ++ "\x7d"
    (LoadsSurviving entries (fun table => table) (Table.load text) ∧
        Table.load text = .error fault) ∧
      (LoadsSurviving entries Configuration.formulas
          (Configuration.load (configured text)) ∧
        Configuration.load (configured text) = .error fault) ∧
        Table.load ascending = Table.load descending ∧
          Configuration.load (configured ascending) =
            Configuration.load (configured descending) := by
  intro text entries fault ascending descending configured
  have loads :
      LoadsSurviving entries (fun table => table) (Table.load text) := by
    have decodes :
        (JsonValue.ofString? text >>= Table.ofJson?).isSome = true := by
      simp only [text]
      rfl
    have expected :
        (JsonValue.ofString? text >>= Table.listed?) = some entries := by
      simp only [text, entries]
      rfl
    rcases load_validates_surviving.1 text decodes with
      ⟨document, listed, read, meant, loads⟩
    rw [read] at expected
    cases meant.symm.trans expected
    exact loads
  have configurationLoads :
      LoadsSurviving entries Configuration.formulas
        (Configuration.load (configured text)) := by
    have decodes :
        (JsonValue.ofString? (configured text) >>=
            Configuration.ofJson?).isSome = true := by
      decide +kernel
    have expected :
        (JsonValue.ofString? (configured text) >>= fun document =>
            Configuration.table? document >>= Table.listed?) =
          some entries := by
      simp only [configured, text, entries]
      rfl
    rcases load_validates_surviving.2.1 (configured text) decodes with
      ⟨document, table, listed, read, inside, meant, loads⟩
    rw [read, Option.bind_eq_bind, Option.bind_some, inside] at expected
    cases meant.symm.trans expected
    exact loads
  have outcome : Table.load text = .error fault := by
    simp only [text]
    rfl
  have configurationOutcome :
      Configuration.load (configured text) = .error fault :=
    (configurationLoads.error_iff _).2 ((loads.error_iff _).1 outcome)
  let one : JsonText × JsonValue :=
    (⟨['1'], some "1"⟩, .array [.text ⟨['a'], some "a"⟩])
  let two : JsonText × JsonValue :=
    (⟨['2'], some "2"⟩, .array [.text ⟨['b'], some "b"⟩])
  let key : JsonText := ⟨"formulas".toList, some "formulas"⟩
  have exchanged :
      Table.Permuted (.object [one, two]) (.object [two, one]) :=
    .intro (.swap two one []) (by decide)
  have ascendingRead :
      JsonValue.ofString? ascending = some (.object [one, two]) := by
    simp only [ascending, one, two]
    rfl
  have descendingRead :
      JsonValue.ofString? descending = some (.object [two, one]) := by
    simp only [descending, one, two]
    rfl
  have ascendingConfigured :
      JsonValue.ofString? (configured ascending) =
        some (.object [(key, .object [one, two])]) := by
    simp only [configured, ascending, key, one, two]
    rfl
  have descendingConfigured :
      JsonValue.ofString? (configured descending) =
        some (.object [(key, .object [two, one])]) := by
    simp only [configured, descending, key, one, two]
    rfl
  refine
    ⟨⟨loads, outcome⟩, ⟨configurationLoads, configurationOutcome⟩, ?_, ?_⟩
  · exact
      (load_validates_surviving.2.2 _ _ _ _ ascendingRead
        descendingRead).1 exchanged
  · apply
      (load_validates_surviving.2.2 _ _ _ _ ascendingConfigured
        descendingConfigured).2
    exact @Configuration.Permuted.object [] [] key _ _ rfl exchanged

end Formulary
