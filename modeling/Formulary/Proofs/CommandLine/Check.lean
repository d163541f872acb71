import Formulary.CommandLine.Outcome
import Formulary.Proofs.Configuration.Order
import Formulary.Proofs.Decimal.Text
import Formulary.Proofs.Engine.Reports
import Formulary.Proofs.Formula.Reading
import Formulary.Proofs.Parsing.Soundness

/-!
# What a check reports

A check would account for a table if it printed one line for each definition,
with the message about the fault of its text if there is one, and failed with
the number of faults: `Table.account`.

The program takes a formula for invalid if it is not-a-number alone.  That is
also the formula of a numeral that is no number, such as `1.2.3`, which
parses.  Such a definition is counted among the invalid ones, but there is no
message about it, and so no line: `Table.findings`.  Everything else is
accounted for, which `carryOut_check` states for all configurations and
options.
-/

namespace Formulary

/-! ## Numerals that are no numbers -/

instance (text : List Char) : Decidable (IsNumeral text) :=
  match text with
  | [] => .isFalse nofun
  | first :: rest =>
      decidable_of_iff
        (first.isDigit = true ∧
          rest.all (fun character =>
            character.isDigit || character == '.') = true)
        ⟨fun shape => .intro shape.1 (List.all_eq_true.1 shape.2), fun
          | .intro digit others => ⟨digit, List.all_eq_true.2 others⟩⟩

/-- The text of the definition is a numeral, but its value is not a number. -/
def Definition.IsNaNNumeral (definition : Definition) : Prop :=
  IsNumeral definition.expression.toList ∧
    (Number.ofText definition.expression.toList).isNaN = true

instance (definition : Definition) : Decidable definition.IsNaNNumeral :=
  inferInstanceAs (Decidable (_ ∧ _))

theorem Formula.isInvalid_iff
    (formula : Formula) :
    formula.isInvalid = true ↔ formula = invalid := by
  constructor
  · intro isInvalid
    unfold Formula.isInvalid at isInvalid
    split at isInvalid
    · rfl
    · cases isInvalid
  · rintro rfl
    rfl

theorem Number.isNaN_iff
    (number : Number) :
    number.isNaN = true ↔ number = .nan := by
  cases number <;> simp [isNaN]

theorem Expression.formula_single
    (precedence : Precedence)
    (parameters : List String)
    (operand : Operand Word) :
    Expression.formula precedence parameters (.single operand) =
      .single (operand.formula precedence parameters) := by
  rw [formula, Chain.arrange, Chain.site, Operand.formula]
  rfl

/-- A formula that is an atom alone is that of a word alone. -/
theorem Expression.exists_word_of_formula
    {precedence : Precedence}
    {parameters : List String}
    {expression : Expression}
    {atom : Atom}
    (alone :
      expression.formula precedence parameters = .single (.atom atom)) :
    ∃ written : Word,
      expression = .single (.atom written) ∧ written.atom parameters = atom := by
  cases expression with
  | single operand =>
      rw [formula_single, Chain.single.injEq, Operand.formula] at alone
      cases operand with
      | atom written =>
          rw [Operand.arrange, Operand.atom.injEq] at alone
          exact ⟨written, rfl, alone⟩
      | group body =>
          rw [Operand.arrange] at alone
          cases alone
  | link before operator operand =>
      have reading := congrArg Chain.reading alone
      rw [formula, Chain.reading_arrange, Chain.reading_link,
        Chain.reading_single, Operand.reading_atom, List.map_append,
        List.map_cons] at reading
      have member :
          Lexeme.operator operator ∈ [Lexeme.atom atom] := by
        rw [← reading]
        exact List.mem_append_right _ List.mem_cons_self
      cases List.mem_singleton.1 member

/-- The formula of a syntax tree is not-a-number alone exactly if the tree is a numeral that is no number. -/
theorem Expression.isInvalid_formula
    (precedence : Precedence)
    (parameters : List String)
    (expression : Expression) :
    (expression.formula precedence parameters).isInvalid = true ↔
      IsNumeral expression.text ∧
        (Number.ofText expression.text).isNaN = true := by
  rw [Formula.isInvalid_iff]
  constructor
  · intro isInvalid
    rcases exists_word_of_formula isInvalid with ⟨written, rfl, isNaN⟩
    rw [text_single, Operand.text_atom]
    cases written with
    | numeral text shape =>
        rw [Word.atom, Atom.literal.injEq] at isNaN
        exact ⟨shape, (Number.isNaN_iff _).2 isNaN⟩
    | name text shape => cases isNaN
  · rintro ⟨shape, isNaN⟩
    have alone :
        expression = .single (.atom (.numeral expression.text shape)) :=
      text_injective (by
        rw [text_single, Operand.text_atom]
        rfl)
    rw [alone, formula_single, Operand.formula, Operand.arrange, Word.atom,
      (Number.isNaN_iff _).1 isNaN]
    rfl

/-! ## The definitions of a table -/

namespace Definition

/-- The fault of the text of a definition. -/
def fault? (precedence : Precedence) (definition : Definition) : Option ParseError :=
  match Formula.parse precedence definition.parameters definition.expression with
  | .ok _ => none
  | .error fault => some fault

variable (precedence : Precedence) (definition : Definition)

/-- The program takes a definition for invalid if its text has a fault, or is a numeral that is no number. -/
theorem isInvalid_parseOrInvalid :
    (Formula.parseOrInvalid precedence definition.parameters
        definition.expression).1.isInvalid = true ↔
      (definition.fault? precedence).isSome = true ∨
        definition.IsNaNNumeral := by
  rw [Formula.parseOrInvalid, fault?, IsNaNNumeral]
  cases parsed :
      Formula.parse precedence definition.parameters definition.expression with
  | error fault => simp only [Formula.isInvalid_invalid, Option.isSome_some, true_or]
  | ok formula =>
      rcases parse_eq_ok_iff.1 parsed with ⟨expression, spelled, _, rfl⟩
      simp only [expression.isInvalid_formula, spelled, Option.isSome_none,
        Bool.false_eq_true, false_or]

variable {definition}

/-- A numeral parses, even if it is no number. -/
theorem IsNaNNumeral.fault?_eq_none
    (isNaN : definition.IsNaNNumeral) :
    definition.fault? precedence = none := by
  have spelled :
      Expression.text (.single (.atom (.numeral _ isNaN.1))) =
        definition.expression.toList := by
    rw [Expression.text_single, Operand.text_atom]
    rfl
  have known :
      Expression.Known definition.parameters
        (.single (.atom (.numeral _ isNaN.1))) :=
    (Expression.known_single _ _).2 (Operand.known_numeral _ _ _)
  rw [fault?, parse_eq_formula spelled known]

end Definition

/-! ## Reports -/

/-- The line about a definition: its text parses, or has a fault. -/
def checkLine (precedence : Precedence) (entry : FormulaId × Definition) : String :=
  match entry.2.fault? precedence with
  | none => idText entry.1 ++ "\tok"
  | some fault => idText entry.1 ++ "\terror\t" ++ fault.message

/-- The report with a line for every definition and the number of faults. -/
def account
    (precedence : Precedence)
    (entries : List (FormulaId × Definition)) :
    CheckReport :=
  ⟨entries.map (checkLine precedence),
    entries.countP fun entry => (entry.2.fault? precedence).isSome⟩

/-- The report of the program: numerals that are no numbers have no line, but are counted. -/
def findings
    (precedence : Precedence)
    (entries : List (FormulaId × Definition)) :
    CheckReport :=
  ⟨(entries.filter fun entry => !decide entry.2.IsNaNNumeral).map
      (checkLine precedence),
    (account precedence entries).invalid +
      entries.countP fun entry => decide entry.2.IsNaNNumeral⟩

/-- What is printed of a report about a number of formulas. -/
def CheckReport.outcome (report : CheckReport) (total : Nat) : Outcome :=
  let text := "\n".intercalate report.lines
  if report.invalid = 0 then
    .success text ""
  else
    .failure
      (String.ofList (Nat.toDigits 10 report.invalid) ++ " of " ++
        String.ofList (Nat.toDigits 10 total) ++ " formulas are invalid")
      (text ++ "\n")

theorem runCheck_eq
    (configuration : Configuration) :
    runCheck configuration =
      (checkFormulas configuration.formulas.source
        (Engine.fresh configuration.options)
        configuration.formulas.ids).outcome configuration.formulas.size :=
  rfl

/-- The first definition adds its line, and counts if it is taken for invalid. -/
theorem findings_cons
    (precedence : Precedence)
    (entry : FormulaId × Definition)
    (entries : List (FormulaId × Definition)) :
    findings precedence (entry :: entries) =
      if entry.2.IsNaNNumeral then
        ⟨(findings precedence entries).lines,
          (findings precedence entries).invalid + 1⟩
      else
        ⟨checkLine precedence entry :: (findings precedence entries).lines,
          (findings precedence entries).invalid +
            if (entry.2.fault? precedence).isSome then 1 else 0⟩ := by
  by_cases isNaN : entry.2.IsNaNNumeral
  · rw [if_pos isNaN]
    simp only [findings, account, List.filter_cons, List.countP_cons, isNaN,
      isNaN.fault?_eq_none, decide_true, Bool.not_true, Bool.false_eq_true,
      if_false, if_true, Option.isSome_none, Nat.add_zero, Nat.add_assoc]
  · rw [if_neg isNaN]
    simp only [findings, account, List.filter_cons, List.countP_cons, isNaN,
      decide_false, Bool.not_false, Bool.false_eq_true, if_false, if_true,
      List.map_cons, Nat.add_zero]
    rw [Nat.add_right_comm]

/-- A formula that is not kept is that of its definition, and so are the messages. -/
theorem Engine.formula_of_missing
    {engine : Engine}
    {id : FormulaId}
    (missing : engine.formulas.get? id = none)
    {source : Source}
    {definition : Definition}
    (found : source id = some definition) :
    (engine.formula source id).value =
        (Formula.parseOrInvalid engine.options.precedence
          definition.parameters definition.expression).1 ∧
      messagesOf (engine.formula source id).events =
        ((definition.fault? engine.options.precedence).map
          ParseError.message).toList := by
  have answer :
      (engine.formula source id).value =
          (source.parse engine.options.precedence id).1 ∧
        (engine.formula source id).events =
          (source.parse engine.options.precedence id).2 := by
    simp only [formula, FormulaCache.getOrParse, missing, and_self]
  have fault :
      source.fault? engine.options.precedence id =
        (definition.fault? engine.options.precedence).map
          ParseError.message := by
    rw [Source.fault?, found, Definition.fault?]
    simp only
    cases
        Formula.parse engine.options.precedence definition.parameters
          definition.expression with
    | ok parsed => rfl
    | error fault => rfl
  rw [answer.1, answer.2, source.messagesOf_parse, fault, Source.parse, found]
  exact ⟨rfl, rfl⟩

/-- The definitions of ascending numbers are found one after the other. -/
theorem checkFormulas_eq
    {source : Source}
    {entries : List (FormulaId × Definition)}
    (ascending : entries.Pairwise fun earlier later => earlier.1 < later.1)
    (found : ∀ entry ∈ entries, source entry.1 = some entry.2)
    {engine : Engine}
    (missing : ∀ entry ∈ entries, engine.formulas.get? entry.1 = none) :
    checkFormulas source engine (entries.map Prod.fst) =
      findings engine.options.precedence entries := by
  induction entries generalizing engine with
  | nil => rfl
  | cons entry entries hypothesis =>
      rcases List.pairwise_cons.1 ascending with ⟨least, others⟩
      have first := missing entry List.mem_cons_self
      have missingLater :
          ∀ later ∈ entries,
            (engine.formula source entry.1).engine.formulas.get? later.1 =
              none := by
        intro later member
        have differ : later.1 ≠ entry.1 :=
          (UInt32.ne_of_lt (least later member)).symm
        have kept :=
          engine.formulas.get?_getOrParse source engine.options.precedence
            entry.1 later.1
        rw [if_neg differ, missing later (List.mem_cons_of_mem _ member)] at kept
        exact kept
      have rest :
          checkFormulas source (engine.formula source entry.1).engine
              (entries.map Prod.fst) =
            findings engine.options.precedence entries :=
        hypothesis others
          (fun later member => found later (List.mem_cons_of_mem _ member))
          missingLater
      rcases Engine.formula_of_missing first (found entry List.mem_cons_self) with
        ⟨value, messages⟩
      have taken :=
        entry.2.isInvalid_parseOrInvalid engine.options.precedence
      rw [List.map_cons, findings_cons]
      simp only [checkFormulas, rest, value, messages, taken]
      by_cases isNaN : entry.2.IsNaNNumeral
      · rw [if_pos (.inr isNaN), if_pos isNaN, isNaN.fault?_eq_none]
        rfl
      · rw [if_neg isNaN, checkLine]
        cases entry.2.fault? engine.options.precedence with
        | some fault =>
            rw [if_pos (.inl rfl)]
            rfl
        | none =>
            rw [if_neg fun invalid => invalid.elim nofun isNaN]
            rfl

/-! ## Outcomes -/

/-- The number at the end of a text is known from the text. -/
theorem eq_of_append_toDigits
    {front front' : List Char}
    {number number' : Nat}
    (same :
      front ++ ' ' :: Nat.toDigits 10 number =
        front' ++ ' ' :: Nat.toDigits 10 number') :
    number = number' := by
  have digits
      (before : List Char)
      (value : Nat) :
      (before ++ ' ' :: Nat.toDigits 10 value).reverse.takeWhile
          Char.isDigit =
        (Nat.toDigits 10 value).reverse := by
    rw [List.reverse_append, List.reverse_cons, List.append_assoc]
    apply takeWhile_append_of_head?
    · intro character member
      exact isDigit_of_mem_toDigits (List.mem_reverse.1 member)
    · intro character head
      cases head
      rfl
  have reversed :
      (Nat.toDigits 10 number).reverse = (Nat.toDigits 10 number').reverse := by
    rw [← digits front, same, digits]
  rw [← numeralValue_toDigits number, List.reverse_inj.1 reversed,
    numeralValue_toDigits]

/-- A failure tells the number of invalid formulas behind a blank. -/
theorem CheckReport.errors_outcome
    {report : CheckReport}
    (someInvalid : report.invalid ≠ 0)
    (total : Nat) :
    (report.outcome total).errors.toList =
      ("\n".intercalate report.lines ++ "\nError:").toList ++
        ' ' :: Nat.toDigits 10 report.invalid ++
          (" of ".toList ++ Nat.toDigits 10 total ++
            " formulas are invalid\n".toList) := by
  rw [outcome]
  simp only [if_neg someInvalid, Outcome.failure, String.toList_append,
    String.toList_ofList, List.append_assoc]
  rfl

/-- Reports with different numbers of invalid formulas are not printed alike. -/
theorem CheckReport.invalid_eq_of_outcome
    {left right : CheckReport}
    {total : Nat}
    (same : left.outcome total = right.outcome total) :
    left.invalid = right.invalid := by
  have code
      (report : CheckReport) :
      (report.outcome total).code = 0 ↔ report.invalid = 0 := by
    rw [outcome]
    split
    · rename_i none
      exact ⟨fun _ => none, fun _ => rfl⟩
    · rename_i some
      exact ⟨nofun, fun none => absurd none some⟩
  by_cases leftNone : left.invalid = 0
  · rw [leftNone, ((code right).1 (by rw [← same, (code left).2 leftNone]))]
  · have rightSome : right.invalid ≠ 0 := by
      intro rightNone
      exact leftNone ((code left).1 (by rw [same, (code right).2 rightNone]))
    have errors := congrArg (String.toList ∘ Outcome.errors) same
    simp only [Function.comp_apply] at errors
    rw [errors_outcome leftNone, errors_outcome rightSome,
      List.append_left_inj] at errors
    exact eq_of_append_toDigits errors

/-- Every definition is accounted for exactly if no numeral is no number. -/
theorem outcome_findings_eq_iff
    (precedence : Precedence)
    (entries : List (FormulaId × Definition))
    (total : Nat) :
    (findings precedence entries).outcome total =
        (account precedence entries).outcome total ↔
      ∀ entry ∈ entries, ¬entry.2.IsNaNNumeral := by
  constructor
  · intro same
    have counts := CheckReport.invalid_eq_of_outcome same
    rw [findings, Nat.add_eq_left, List.countP_eq_zero] at counts
    intro entry member isNaN
    exact counts entry member (decide_eq_true isNaN)
  · intro numbers
    have all :
        (entries.filter fun entry => !decide entry.2.IsNaNNumeral) =
          entries := by
      apply List.filter_eq_self.2
      intro entry member
      rw [decide_eq_false (numbers entry member), Bool.not_false]
    have none :
        (entries.countP fun entry => decide entry.2.IsNaNNumeral) = 0 := by
      apply List.countP_eq_zero.2
      intro entry member
      rw [decide_eq_false (numbers entry member)]
      exact Bool.false_ne_true
    rw [findings, all, none, Nat.add_zero]
    rfl

/--
A check of a configuration that loads goes through its formulas in ascending
order.  It prints a line for each of them, unless it is a numeral that is no
number; that one is counted among the invalid formulas without a line.  So all
formulas are accounted for exactly if there is no such numeral.
-/
theorem carryOut_check
    {text : String}
    {configuration : Configuration}
    (loaded : Configuration.load text = .ok configuration)
    (flags : Flags)
    (path : String) :
    let entries := configuration.formulas.entries
    let precedence := (flags.override configuration.options).precedence
    let outcome := (Request.run flags path .check).carryOut (some text)
    (entries.map Prod.fst).Pairwise (· < ·) ∧
      outcome = (findings precedence entries).outcome entries.length ∧
        (outcome = (account precedence entries).outcome entries.length ↔
          ∀ entry ∈ entries, ¬entry.2.IsNaNNumeral) := by
  have ascending := Configuration.ascending_of_load loaded
  have found :
      ∀ entry ∈ configuration.formulas.entries,
        configuration.formulas.source entry.1 = some entry.2 := by
    intro entry member
    exact ascending.get?_of_mem member
  have checked :
      (Request.run flags path .check).carryOut (some text) =
        (findings (flags.override configuration.options).precedence
          configuration.formulas.entries).outcome
            configuration.formulas.entries.length := by
    have report :
        checkFormulas configuration.formulas.source
            (Engine.fresh (flags.override configuration.options))
            configuration.formulas.ids =
          findings (flags.override configuration.options).precedence
            configuration.formulas.entries :=
      checkFormulas_eq ascending found fun _ _ => rfl
    simp only [Request.carryOut, Option.map_some, loaded]
    rw [Command.run, runCheck_eq]
    simp only [Configuration.override]
    rw [report]
    rfl
  refine ⟨List.pairwise_map.2 ascending, checked, ?_⟩
  rw [checked]
  exact outcome_findings_eq_iff _ _ _

/-- A product and a text with a fault are both accounted for. -/
theorem carryOut_check_two :
    let text :=
      "\x7b\"formulas\":\x7b\"2\":[\"3+\"],\"1\":[\"2*(3+4)\"]\x7d\x7d"
    let entries := [(1, ⟨"2*(3+4)", []⟩), (2, ⟨"3+", []⟩)]
    Configuration.load text = .ok ⟨default, ⟨entries⟩⟩ ∧
      (account .climbing entries).outcome 2 =
          .failure "1 of 2 formulas are invalid"
            ("1\tok\n2\terror\texpression [3+] in formula [3+] lacks an " ++
              "operand for [+] at position 1\n") ∧
        (Request.run .none "config.json" .check).carryOut (some text) =
          (account .climbing entries).outcome 2 := by
  intro text entries
  have loaded : Configuration.load text = .ok ⟨default, ⟨entries⟩⟩ := by
    simp only [text, entries]
    rfl
  have numbers : ∀ entry ∈ entries, ¬entry.2.IsNaNNumeral := by
    decide +kernel
  have printed :
      (account .climbing entries).outcome 2 =
        .failure "1 of 2 formulas are invalid"
          ("1\tok\n2\terror\texpression [3+] in formula [3+] lacks an " ++
            "operand for [+] at position 1\n") := by
    decide +kernel
  exact
    ⟨loaded, printed,
      (carryOut_check loaded .none "config.json").2.2.2 numbers⟩

/-- A numeral with two points parses, but the check fails without a line about it. -/
theorem check_pointed_numeral :
    let text :=
      "\x7b\"formulas\":\x7b\"1\":\x7b\"expression\":\"1.2.3\"\x7d\x7d\x7d"
    let entries := [(1, ⟨"1.2.3", []⟩)]
    Configuration.load text = .ok ⟨default, ⟨entries⟩⟩ ∧
      (account .climbing entries).outcome 1 = ⟨0, "1\tok\n", ""⟩ ∧
        (Request.run .none "config.json" .check).carryOut (some text) =
          ⟨1, "", "\nError: 1 of 1 formulas are invalid\n"⟩ := by
  refine ⟨?_, ?_, ?_⟩
  · rfl
  · decide +kernel
  · decide +kernel

end Formulary
