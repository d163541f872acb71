import Formulary.Proofs.CommandLine.Check
import Formulary.Proofs.Engine.Results
import Formulary.Proofs.Formula.Evaluation
import Formulary.Proofs.Parsing.Display

/-!
# The three commands agree

The commands get at the formula of a number in different ways: one by one with
a single engine, or alone with a fresh one, for its value or for its text.
All of them find the formula of the definition, `Configuration.formula`.

So a formula is shown exactly if the check does not count it as invalid.  If it
is counted, it evaluates to not-a-number under all arguments.  Otherwise the
check lists it, and its shown text parses to an equal formula in both precedence
modes, unless it has infinite literals.
-/

namespace Formulary

/-! ## The formulas of a configuration -/

/-- The formula that a fresh engine finds for a number. -/
def Configuration.formula (configuration : Configuration) (id : FormulaId) : Formula :=
  ((Engine.fresh configuration.options).formula configuration.formulas.source
    id).value

/-- The formulas that an engine keeps are those of the definitions of a source. -/
def Engine.Settled (engine : Engine) (source : Source) : Prop :=
  ∀ id kept,
    engine.formulas.get? id = some kept →
      kept = source.formula engine.options.precedence id

theorem Engine.settled_fresh
    (options : EngineOptions)
    (source : Source) :
    (fresh options).Settled source := by
  intro id kept found
  cases found

/-- A settled engine finds the formula of the definition. -/
theorem Engine.Settled.formula_value
    {engine : Engine}
    {source : Source}
    (settled : engine.Settled source)
    (id : FormulaId) :
    (engine.formula source id).value =
      source.formula engine.options.precedence id := by
  have found :=
    engine.formulas.getOrParse_formula source engine.options.precedence id
  rw [show (engine.formula source id).value = _ from found]
  cases kept : engine.formulas.get? id with
  | none => rfl
  | some formula => exact settled id formula kept

/-- An engine stays settled when a formula is asked for. -/
theorem Engine.Settled.formula_engine
    {engine : Engine}
    {source : Source}
    (settled : engine.Settled source)
    (id : FormulaId) :
    (engine.formula source id).engine.Settled source := by
  intro other kept found
  have same :=
    engine.formulas.get?_getOrParse source engine.options.precedence id other
  rw [show (engine.formula source id).engine.formulas.get? other = _ from same]
    at found
  split at found
  · rename_i asked
    cases found
    rw [asked]
    exact settled.formula_value id
  · exact settled other kept found

theorem Configuration.formula_eq
    (configuration : Configuration)
    (id : FormulaId) :
    configuration.formula id =
      configuration.formulas.source.formula configuration.options.precedence
        id :=
  (Engine.settled_fresh _ _).formula_value id

/-- The formula of a definition is that of its text, or invalid. -/
theorem Configuration.formula_of_get?
    {configuration : Configuration}
    {id : FormulaId}
    {definition : Definition}
    (configured : configuration.formulas.get? id = some definition) :
    configuration.formula id =
      (Formula.parseOrInvalid configuration.options.precedence
        definition.parameters definition.expression).1 := by
  have found : configuration.formulas.source id = some definition := configured
  rw [formula_eq, Source.formula, found]

/-! ## Evaluation -/

/-- A value that is computed is that of the formula, whether it is kept or not. -/
theorem Engine.compute_value
    (engine : Engine)
    (source : Source)
    (id : FormulaId)
    (arguments : List Number) :
    (engine.compute source id arguments).value =
      (engine.formula source id).value.evaluate arguments := by
  rw [compute]
  cases engine.options.cacheResults with
  | false => rfl
  | true => rfl

/-- A fresh engine has no result to give again, so it answers with the value of the formula. -/
theorem Engine.evaluate_fresh
    (options : EngineOptions)
    (source : Source)
    (id : FormulaId)
    (arguments : List Number) :
    ((fresh options).evaluate source id arguments).value =
      ((fresh options).formula source id).value.evaluate arguments := by
  have missing : (fresh options).results.get? id arguments = none := rfl
  rw [← compute_value, evaluate, missing]
  simp only [ite_self]

/-- The value of the formula is printed on a line. -/
theorem runEval_success
    (configuration : Configuration)
    (id : FormulaId)
    (arguments : List String) :
    (runEval configuration id arguments).code = 0 ∧
      (runEval configuration id arguments).output =
        toString
            ((configuration.formula id).evaluate
              (arguments.map Number.ofString)) ++
          "\n" := by
  refine ⟨rfl, ?_⟩
  have value :=
    Engine.evaluate_fresh configuration.options configuration.formulas.source
      id (arguments.map Number.ofString)
  rw [runEval, Outcome.success, Engine.evaluateTexts, value,
    ← Configuration.formula]
  generalize
    (configuration.formula id).evaluate (arguments.map Number.ofString) =
      number
  apply if_neg
  rw [String.isEmpty_iff]
  intro empty
  apply number.text_ne_nil
  rw [← String.ofList_eq_empty_iff]
  exact empty

/-! ## Checking -/

/-- The numbers of the formulas that a check counts as invalid while it goes through a list. -/
def countedInvalid
    (source : Source) :
    (engine : Engine) → (ids : List FormulaId) → List FormulaId
  | _, [] => []
  | engine, id :: ids =>
      let answer := engine.formula source id
      let others := countedInvalid source answer.engine ids
      if answer.value.isInvalid then id :: others else others

/-- The check tells how many formulas it counts. -/
theorem invalid_checkFormulas
    (source : Source)
    (engine : Engine)
    (ids : List FormulaId) :
    (checkFormulas source engine ids).invalid =
      (countedInvalid source engine ids).length := by
  induction ids generalizing engine with
  | nil => rfl
  | cons id ids hypothesis =>
      simp only [checkFormulas, countedInvalid]
      split
      · rw [List.length_cons, hypothesis]
      · exact hypothesis _

/-- A check that counts nothing lists every formula. -/
theorem lines_checkFormulas
    {source : Source}
    {engine : Engine}
    {ids : List FormulaId}
    (none : (checkFormulas source engine ids).invalid = 0) :
    (checkFormulas source engine ids).lines =
      ids.map fun id => idText id ++ "\tok" := by
  induction ids generalizing engine with
  | nil => rfl
  | cons id ids hypothesis =>
      simp only [checkFormulas] at none ⊢
      split at none
      · cases none
      · rename_i valid
        rw [if_neg valid, hypothesis none, List.map_cons]

/-- The formulas that are counted are those of the invalid definitions. -/
theorem countedInvalid_eq
    {source : Source}
    {engine : Engine}
    (settled : engine.Settled source)
    (ids : List FormulaId) :
    countedInvalid source engine ids =
      ids.filter fun id =>
        (source.formula engine.options.precedence id).isInvalid := by
  induction ids generalizing engine with
  | nil => rfl
  | cons id ids hypothesis =>
      have others := hypothesis (settled.formula_engine id)
      rw [countedInvalid, List.filter_cons]
      simp only [settled.formula_value id, others]
      rfl

/-- The number of a definition is one of the table. -/
theorem Table.mem_ids
    {table : Table}
    {id : FormulaId}
    {definition : Definition}
    (configured : table.get? id = some definition) :
    id ∈ table.ids := by
  rcases List.lookup_eq_some_iff.1 configured with ⟨before, behind, split, _⟩
  rw [ids, split]
  exact List.mem_map_of_mem (List.mem_append_right _ List.mem_cons_self)

/-- A configured formula is counted exactly if it is invalid. -/
theorem Configuration.mem_countedInvalid_iff
    {configuration : Configuration}
    {id : FormulaId}
    (listed : id ∈ configuration.formulas.ids) :
    id ∈
        countedInvalid configuration.formulas.source
          (Engine.fresh configuration.options) configuration.formulas.ids ↔
      (configuration.formula id).isInvalid = true := by
  rw [countedInvalid_eq (Engine.settled_fresh _ _), List.mem_filter,
    formula_eq]
  exact ⟨And.right, fun invalid => ⟨listed, invalid⟩⟩

/-- The line about a formula that is all right is one line. -/
theorem newline_not_mem_okLine
    (id : FormulaId) :
    '\n' ∉ (idText id ++ "\tok").toList := by
  rw [String.toList_append, idText, String.toList_ofList]
  intro member
  rcases List.mem_append.1 member with inDigits | inWord
  · exact absurd (isDigit_of_mem_toDigits inDigits) (by decide)
  · exact absurd inWord (by decide)

/-- A line break behind some lines begins one more line, which is empty. -/
theorem intercalate_append_newline
    {lines : List (List Char)}
    (someLine : lines ≠ []) :
    ['\n'].intercalate lines ++ ['\n'] = ['\n'].intercalate (lines ++ [[]]) := by
  induction lines with
  | nil => exact absurd rfl someLine
  | cons line lines hypothesis =>
      cases lines with
      | nil =>
          rw [List.singleton_append, List.intercalate_cons_cons,
            List.intercalate_singleton, List.intercalate_singleton,
            List.append_nil]
      | cons next lines =>
          rw [List.intercalate_cons_cons, List.append_assoc,
            hypothesis (List.cons_ne_nil _ _)]
          simp only [List.cons_append, List.intercalate_cons_cons]

/-- Lines that are printed can be read off the output. -/
theorem Outcome.mem_splitOn_success
    {lines : List String}
    (single : ∀ line ∈ lines, '\n' ∉ line.toList)
    {line : String}
    (member : line ∈ lines)
    (errors : String) :
    line.toList ∈
      (success ("\n".intercalate lines) errors).output.toList.splitOn '\n' := by
  have someLine : lines.map String.toList ≠ [] :=
    List.ne_nil_of_mem (List.mem_map_of_mem member)
  have singleText :
      ∀ text ∈ lines.map String.toList ++ [[]], '\n' ∉ text := by
    intro text isText
    rcases List.mem_append.1 isText with shown | last
    · rcases List.mem_map.1 shown with ⟨line, isLine, rfl⟩
      exact single line isLine
    · rw [List.mem_singleton.1 last]
      exact List.not_mem_nil
  have spelled :
      ("\n".intercalate lines).toList =
        ['\n'].intercalate (lines.map String.toList) :=
    String.toList_intercalate
  rw [success]
  simp only
  split
  · rename_i empty
    -- Nothing is printed of a single line without text.
    rw [String.isEmpty_iff] at empty
    rw [← empty, spelled,
      List.splitOn_intercalate '\n'
        (fun text isText => singleText text (List.mem_append_left _ isText))
        someLine]
    exact List.mem_map_of_mem member
  · rw [String.toList_append, spelled,
      show "\n".toList = ['\n'] from rfl,
      intercalate_append_newline someLine,
      List.splitOn_intercalate '\n' singleText
        (List.append_ne_nil_of_left_ne_nil someLine _)]
    exact List.mem_append_left _ (List.mem_map_of_mem member)

/-- A check that succeeds has a line for every formula in its output. -/
theorem mem_splitOn_runCheck
    {configuration : Configuration}
    {id : FormulaId}
    (listed : id ∈ configuration.formulas.ids)
    (succeeds : (runCheck configuration).code = 0) :
    (idText id ++ "\tok").toList ∈
      (runCheck configuration).output.toList.splitOn '\n' := by
  rw [runCheck_eq] at succeeds ⊢
  rw [CheckReport.outcome] at succeeds ⊢
  split at succeeds
  · rename_i none
    rw [if_pos none, lines_checkFormulas none]
    apply Outcome.mem_splitOn_success
    · intro line isLine
      rcases List.mem_map.1 isLine with ⟨other, _, rfl⟩
      exact newline_not_mem_okLine other
    · exact List.mem_map_of_mem listed
  · cases succeeds

/-! ## Showing -/

section Showing

variable
  {configuration : Configuration}
  {id : FormulaId}
  {definition : Definition}
  (configured : configuration.formulas.get? id = some definition)

include configured

/-- An invalid formula is not shown. -/
theorem runShow_invalid
    (invalid : (configuration.formula id).isInvalid = true) :
    (runShow configuration id).code = 1 := by
  rw [Configuration.formula] at invalid
  rw [runShow, configured]
  simp only [if_pos invalid]
  rfl

/-- Every other formula is shown. -/
theorem runShow_valid
    (valid : ¬(configuration.formula id).isInvalid = true) :
    runShow configuration id =
      .success ((configuration.formula id).displayWith definition.parameters)
        "" := by
  rw [Configuration.formula] at valid
  rw [runShow, configured]
  simp only [if_neg valid]
  rfl

/-- A formula that is not invalid is that of a syntax tree with known names. -/
theorem Configuration.exists_expression
    (valid : ¬(configuration.formula id).isInvalid = true) :
    ∃ expression : Expression,
      expression.Known definition.parameters ∧
        configuration.formula id =
          expression.formula configuration.options.precedence
            definition.parameters := by
  rw [formula_of_get? configured, Formula.parseOrInvalid] at valid ⊢
  cases parsed :
      Formula.parse configuration.options.precedence definition.parameters
        definition.expression with
  | error fault =>
      rw [parsed] at valid
      exact absurd rfl valid
  | ok formula =>
      rcases parse_eq_ok_iff.1 parsed with ⟨expression, _, known, same⟩
      exact ⟨expression, known, same⟩

end Showing

/--
A formula that is not invalid and has finite literals is shown on a line.
Its text parses to an equal formula, in either mode.
-/
theorem runShow_reparses
    {configuration : Configuration}
    {id : FormulaId}
    {definition : Definition}
    (configured : configuration.formulas.get? id = some definition)
    (valid : ¬(configuration.formula id).isInvalid = true)
    (finite :
      ∀ value,
        Atom.literal value ∈ (configuration.formula id).atoms →
          value.isFinite = true) :
    ∃ shown,
      (runShow configuration id).output = shown ++ "\n" ∧
        ∀ precedence,
          ∃ reparsed,
            Formula.parse precedence definition.parameters shown =
                .ok reparsed ∧
              (reparsed == configuration.formula id) = true := by
  rcases Configuration.exists_expression configured valid with
    ⟨expression, known, same⟩
  have spelled :
      (expression.shown configuration.options.precedence).text =
        ((configuration.formula id).displayWith
          definition.parameters).toList := by
    rw [same] at finite ⊢
    rw [Expression.text_shown _ known finite, Formula.displayWith,
      String.toList_ofList]
  have shownKnown :
      (expression.shown configuration.options.precedence).Known
        definition.parameters := by
    rw [Expression.Known, Expression.names_shown]
    exact known
  refine ⟨(configuration.formula id).displayWith definition.parameters, ?_, ?_⟩
  · rw [runShow_valid configured valid, Outcome.success]
    apply if_neg
    rw [String.isEmpty_iff]
    intro empty
    rw [empty] at spelled
    exact Expression.text_ne_nil _ spelled
  · intro precedence
    refine ⟨_, parse_eq_formula spelled shownKnown, ?_⟩
    rw [same]
    exact expression.formula_shown _ _ _

/-! ## Agreement -/

/-- A command is carried out on the configuration that loads, with the options overridden. -/
theorem carryOut_run
    {text : String}
    {configuration : Configuration}
    (loaded : Configuration.load text = .ok configuration)
    (flags : Flags)
    (path : String)
    (command : Command) :
    (Request.run flags path command).carryOut (some text) =
      command.run (configuration.override flags) := by
  simp only [Request.carryOut, Option.map_some, loaded]

/--
The commands agree about every configured formula of a configuration that
loads, if they are given the same options.  All of them get at the same formula,
which is the one that is evaluated.

A formula is not shown exactly if a check counts it as invalid; its value is
then not-a-number under all arguments.  Otherwise a check that succeeds lists
it, and the shown text parses to an equal formula, in either mode, if all
literals are finite.
-/
theorem commands_agree
    {text : String}
    {configuration : Configuration}
    (loaded : Configuration.load text = .ok configuration)
    {id : FormulaId}
    {definition : Definition}
    (configured : configuration.formulas.get? id = some definition)
    (flags : Flags)
    (path : String) :
    let outcome (command : Command) :=
      (Request.run flags path command).carryOut (some text)
    let overridden := configuration.override flags
    let formula := overridden.formula id
    let source := overridden.formulas.source
    let ids := overridden.formulas.ids
    let engine := Engine.fresh overridden.options
    let report := checkFormulas source engine ids
    let counted := countedInvalid source engine ids
    (outcome .check = report.outcome overridden.formulas.size ∧
        report.invalid = counted.length) ∧
      ((outcome (.show id)).code ≠ 0 ↔ id ∈ counted) ∧
        (∀ arguments,
          (outcome (.eval id arguments)).code = 0 ∧
            (outcome (.eval id arguments)).output =
              toString (formula.evaluate (arguments.map Number.ofString)) ++
                "\n") ∧
          (id ∈ counted →
            ∀ arguments, (outcome (.eval id arguments)).output = "NaN\n") ∧
            (id ∉ counted →
              ((outcome .check).code = 0 →
                (idText id ++ "\tok").toList ∈
                  (outcome .check).output.toList.splitOn '\n') ∧
              ((∀ value,
                  Atom.literal value ∈ formula.atoms →
                    value.isFinite = true) →
                ∃ shown,
                  (outcome (.show id)).output = shown ++ "\n" ∧
                    ∀ precedence,
                      ∃ reparsed,
                        Formula.parse precedence definition.parameters shown =
                            .ok reparsed ∧
                          (reparsed == formula) = true)) := by
  intro outcome overridden formula source ids engine report counted
  have carried (command : Command) : outcome command = command.run overridden :=
    carryOut_run loaded flags path command
  have configuredHere : overridden.formulas.get? id = some definition :=
    configured
  have listed : id ∈ ids := Table.mem_ids configuredHere
  have countedIff : id ∈ counted ↔ formula.isInvalid = true :=
    Configuration.mem_countedInvalid_iff listed
  have evaluated (arguments : List String) :
      (outcome (.eval id arguments)).code = 0 ∧
        (outcome (.eval id arguments)).output =
          toString (formula.evaluate (arguments.map Number.ofString)) ++
            "\n" := by
    rw [carried]
    exact runEval_success overridden id arguments
  refine ⟨⟨?_, ?_⟩, ?_, evaluated, ?_, ?_⟩
  · exact carried .check
  · exact invalid_checkFormulas source engine ids
  · rw [carried, countedIff, Command.run]
    constructor
    · intro fails
      by_contra valid
      rw [runShow_valid configuredHere valid] at fails
      exact fails rfl
    · intro invalid
      rw [runShow_invalid configuredHere invalid]
      exact Nat.one_ne_zero
  · intro isCounted arguments
    have invalid := formula.isInvalid_iff.1 (countedIff.1 isCounted)
    rw [(evaluated arguments).2, invalid, Formula.evaluate_invalid]
    rfl
  · intro notCounted
    have valid := mt countedIff.2 notCounted
    constructor
    · rw [carried]
      exact mem_splitOn_runCheck listed
    · rw [carried]
      exact runShow_reparses configuredHere valid

/-- A product is shown so that it can be read again; a text with a fault has no value. -/
theorem commands_agree_about_product_and_fault :
    let text :=
      "\x7b\"formulas\":\x7b\"2\":[\"3+\"],\"1\":[\"2*(3+4)\"]\x7d\x7d"
    let configuration :=
      ⟨default, ⟨[(1, ⟨"2*(3+4)", []⟩), (2, ⟨"3+", []⟩)]⟩⟩
    let outcome (command : Command) :=
      (Request.run .none "config.json" command).carryOut (some text)
    Configuration.load text = .ok configuration ∧
      (∀ arguments, (outcome (.eval 2 arguments)).output = "NaN\n") ∧
        (outcome (.show 1)).output = "2*(3+4)\n" ∧
          ∀ precedence,
            ∃ reparsed,
              Formula.parse precedence [] "2*(3+4)" = .ok reparsed ∧
                (reparsed == configuration.formula 1) = true := by
  intro text configuration outcome
  have loaded : Configuration.load text = .ok configuration := by
    simp only [text, configuration]
    rfl
  have product :=
    @commands_agree text configuration loaded 1 _ rfl .none "config.json"
  have fault :=
    @commands_agree text configuration loaded 2 _ rfl .none "config.json"
  have finite :
      (((configuration.override .none).formula 1).atoms.all fun atom =>
        (atom.value []).isFinite) = true := by
    decide +kernel
  have printed : (outcome (.show 1)).output = "2*(3+4)" ++ "\n" := by
    decide +kernel
  refine ⟨loaded, ?_, printed, ?_⟩
  · apply fault.2.2.2.1
    decide +kernel
  · have shows := (product.2.2.2.2 (by decide +kernel)).2
    rcases shows fun value member => List.all_eq_true.1 finite _ member with
      ⟨shown, output, reparses⟩
    have same : shown = "2*(3+4)" :=
      (String.append_left_inj "\n").1 (output.symm.trans printed)
    rw [same] at reparses
    exact reparses

end Formulary
