import Formulary.Proofs.Engine.Coherence
import Formulary.Proofs.Parsing.Exponents
import Formulary.Proofs.Parsing.Soundness

/-!
# Transparency of kept results

An engine that keeps results gives a value again for numerically equal
arguments, which may be written otherwise.  This is seen from outside if the
value depends on how the arguments are written.

Only powers can do that, by way of exponents from `1024` on.
`caching_transparent_iff` says for which exponents the values with and without
kept results are equal in every run over every source.
-/

namespace Formulary

/-! ## Values of a run -/

namespace Session

/-- The values that the requests of a run are answered with. -/
def values (session : Session) : (requests : List Request) → List Number
  | [] => []
  | request :: requests =>
      (session.value? request).toList ++
        (session.after request).values requests

/-- The request does not change the source. -/
def Request.KeepsSource (request : Request) : Prop :=
  ∀ source, request.sourceAfter source = source

end Session

/-! ## Exponents of a source -/

/-- The word is a numeral that a property holds of, and its value is a whole number of sixty-four bits. -/
def Word.IsExponent (permitted : List Char → Prop) (word : Word) : Prop :=
  ∃ text shape,
    word = .numeral text shape ∧ permitted text ∧
      ∃ whole, (Number.ofText text).wholeExponent? = some whole

/-- In the texts of the source a power has a whole numeral on its right side that the property holds of. -/
def Source.PowersWithin
    (permitted : List Char → Prop)
    (source : Source) :
    Prop :=
  ∀ id definition,
    source id = some definition →
      ∀ expression : Expression,
        expression.text = definition.expression.toList →
          expression.PowersOf (Word.IsExponent permitted)

/-- The exponents among the numerals with the property do not depend on scales, where that can happen at all. -/
def LargeExponentsScaleFree (permitted : List Char → Prop) : Prop :=
  ∀ text whole,
    IsNumeral text →
    permitted text →
    (Number.ofText text).wholeExponent? = some whole →
    1024 ≤ whole.natAbs →
      (Number.ofText text).ScaleFree

/-! ## Where values do not depend on scales -/

/-- The formulas of a source have scale free exponents. -/
theorem Source.PowersWithin.formula
    {permitted : List Char → Prop}
    {source : Source}
    (within : source.PowersWithin permitted)
    (scaleFree : LargeExponentsScaleFree permitted)
    (precedence : Precedence)
    (id : FormulaId) :
    (source.formula precedence id).PowersOf Atom.IsScaleFree := by
  rw [Source.formula]
  cases held : source id with
  | none => trivial
  | some definition =>
      simp only [Formula.parseOrInvalid]
      cases parsed :
          Formula.parse precedence definition.parameters
            definition.expression with
      | error fault => trivial
      | ok formula =>
          rcases parse_eq_ok_iff.1 parsed with ⟨expression, spelled, _, rfl⟩
          have powers := within id definition held expression spelled
          apply powers.arrange _ precedence
          rintro word ⟨text, shape, rfl, allowed, whole, isWhole⟩
          refine ⟨Number.ofText text, rfl, ?_⟩
          rcases Nat.lt_or_ge whole.natAbs 1024 with small | large
          · exact Number.scaleFree_of_lt isWhole small
          · exact scaleFree text whole shape allowed isWhole large

/-- The arguments under which a value is kept are numerically equal to those asked for. -/
theorem keys_of_keptArguments?
    {options : EngineOptions}
    {id : FormulaId}
    {arguments first : List Number}
    {requests : List Session.Request}
    (kept : keptArguments? options id arguments requests = some first) :
    first.map Number.key = arguments.map Number.key := by
  rcases
      Option.map_eq_some_iff.1 (keptArguments?_eq_some_iff.1 kept).2 with
    ⟨call, found, rfl⟩
  have matching := List.find?_some found
  rw [Bool.and_eq_true] at matching
  exact (Number.beq_iff_keys _ _).1 matching.2

/-- Where the source does not change, formulas are parsed from it. -/
theorem sourceAtFirst_of_keepsSource
    {requests : List Session.Request}
    (keeps : ∀ request ∈ requests, request.KeepsSource)
    (id : FormulaId)
    (source : Source) :
    sourceAtFirst id source requests = source := by
  induction requests with
  | nil => rfl
  | cons request requests hypothesis =>
      rw [sourceAtFirst, keeps request List.mem_cons_self]
      split
      · rfl
      · exact hypothesis fun other member =>
          keeps other (List.mem_cons_of_mem _ member)

/-- A value is that of the formula, as far as keys go, whatever is kept. -/
theorem Coherent.key_evaluate_value
    {options : EngineOptions}
    {source : Source}
    {requests : List Session.Request}
    {session : Session}
    (coherent : Coherent options source requests session)
    (keeps : ∀ request ∈ requests, request.KeepsSource)
    {id : FormulaId}
    (powers :
      (source.formula options.precedence id).PowersOf Atom.IsScaleFree)
    (arguments : List Number) :
    (session.evaluate id arguments).value.key =
      ((source.formula options.precedence id).evaluate arguments).key := by
  rw [coherent.evaluate_value, formulaAtFirst,
    sourceAtFirst_of_keepsSource keeps]
  cases kept : keptArguments? options id arguments requests with
  | none => rfl
  | some first =>
      exact Formula.key_evaluate_congr (keys_of_keptArguments? kept) _ powers

/-- Two sessions that differ in what they keep only give equal values. -/
theorem Coherent.keys_values
    {options options' : EngineOptions}
    {source : Source}
    {before : List Session.Request}
    {session session' : Session}
    (coherent : Coherent options source before session)
    (coherent' : Coherent options' source before session')
    (samePrecedence : options.precedence = options'.precedence)
    (powers :
      ∀ id, (source.formula options.precedence id).PowersOf Atom.IsScaleFree)
    (keepsBefore : ∀ request ∈ before, request.KeepsSource)
    {requests : List Session.Request}
    (keeps : ∀ request ∈ requests, request.KeepsSource) :
    (session.values requests).map Number.key =
      (session'.values requests).map Number.key := by
  induction requests generalizing before session session' with
  | nil => rfl
  | cons request requests hypothesis =>
      have keepsNext :
          ∀ other ∈ before ++ [request], other.KeepsSource := by
        intro other member
        rcases List.mem_append.1 member with earlier | last
        · exact keepsBefore other earlier
        · rw [List.mem_singleton.1 last]
          exact keeps request List.mem_cons_self
      have rest :=
        hypothesis (coherent.after request) (coherent'.after request) keepsNext
          fun other member => keeps other (List.mem_cons_of_mem _ member)
      rw [Session.values, Session.values, List.map_append, List.map_append, rest]
      congr 1
      cases asks : request.evaluation? with
      | none =>
          rw [Session.value?_of_none asks, Session.value?_of_none asks]
      | some call =>
          rcases call with ⟨id, arguments⟩
          have value :=
            coherent.key_evaluate_value keepsBefore (powers id) arguments
          have value' :=
            coherent'.key_evaluate_value keepsBefore
              (samePrecedence ▸ powers id) arguments
          rw [(Session.after_of_evaluation? asks session).2,
            (Session.after_of_evaluation? asks session').2,
            Option.toList_some, Option.toList_some, List.map_singleton,
            List.map_singleton, value, value', samePrecedence]

/-! ## Where values depend on scales -/

/-- The texts of powers of one parameter with a given exponent. -/
def powerText (exponent : List Char) : String :=
  String.ofList ('x' :: '^' :: exponent)

/-- A source of one formula for every number, a power of its parameter. -/
def powerSource (exponent : List Char) : Source :=
  fun _ => some ⟨powerText exponent, ["x"]⟩

/-- The syntax tree of the power. -/
def powerExpression
    (exponent : List Char)
    (shape : IsNumeral exponent) :
    Expression :=
  .link
    (.single (.atom (.name ['x'] (.letter (by decide)))))
    .power
    (.atom (.numeral exponent shape))

theorem text_powerExpression
    (exponent : List Char)
    (shape : IsNumeral exponent) :
    Expression.text (powerExpression exponent shape) =
      (powerText exponent).toList := by
  rw [powerExpression, Expression.text_link, Expression.text_single,
    Operand.text_atom, Operand.text_atom, powerText, String.toList_ofList]
  rfl

/-- The power is parsed and evaluated as such. -/
theorem evaluate_powerSource
    {exponent : List Char}
    (shape : IsNumeral exponent)
    (precedence : Precedence)
    (id : FormulaId)
    (base : Number) :
    ((powerSource exponent).formula precedence id).evaluate [base] =
      base.pow (Number.ofText exponent) := by
  have known : Expression.Known ["x"] (powerExpression exponent shape) := by
    rw [powerExpression, Expression.known_link, Expression.known_single,
      Operand.known_name]
    exact ⟨List.mem_singleton_self _, Operand.known_numeral _ _ shape⟩
  have parsed :
      (powerSource exponent).formula precedence id =
        Expression.formula precedence ["x"] (powerExpression exponent shape) := by
    simp only [Source.formula, powerSource, Formula.parseOrInvalid,
      parse_eq_formula (text_powerExpression exponent shape) known]
  have formula :
      Expression.formula precedence ["x"] (powerExpression exponent shape) =
        .link (.single (.atom (.variable 0))) .power
          (.atom (.literal (Number.ofText exponent))) := by
    rw [Expression.formula, Chain.arrange, powerExpression, Chain.site,
      Chain.site, Operand.arrange, Operand.arrange]
    rfl
  rw [parsed, formula, Formula.evaluate_link, Formula.evaluate_single,
    Operand.evaluate_atom, Operand.evaluate_atom]
  rfl

/-- The source of a power has the exponent as its only one. -/
theorem powersWithin_powerSource
    {permitted : List Char → Prop}
    {exponent : List Char}
    {whole : Int}
    (shape : IsNumeral exponent)
    (allowed : permitted exponent)
    (isWhole : (Number.ofText exponent).wholeExponent? = some whole) :
    (powerSource exponent).PowersWithin permitted := by
  intro id definition held expression spelled
  cases held
  rw [← text_powerExpression exponent shape] at spelled
  rw [Expression.text_injective spelled]
  refine ⟨trivial, trivial, fun _ => ⟨_, rfl, ?_⟩⟩
  exact ⟨exponent, shape, rfl, allowed, whole, isWhole⟩

/-- The values that two requests for a power are answered with. -/
theorem values_powerSource
    {exponent : List Char}
    (shape : IsNumeral exponent)
    (options : EngineOptions)
    (left right : Number) :
    (Session.start (powerSource exponent) options).values
        [.evaluate 0 [left], .evaluate 0 [right]] =
      [left.pow (Number.ofText exponent),
        if options.cacheResults && left == right then
          left.pow (Number.ofText exponent)
        else
          right.pow (Number.ofText exponent)] := by
  have start := Coherent.start options (powerSource exponent)
  have value (id : FormulaId) (base : Number) :
      (formulaAtFirst options (powerSource exponent) [.evaluate 0 [left]]
          id).evaluate [base] =
        base.pow (Number.ofText exponent) := by
    rw [formulaAtFirst, sourceAtFirst_of_keepsSource]
    · exact evaluate_powerSource shape options.precedence id base
    · intro request member
      rw [List.mem_singleton.1 member]
      exact fun _ => rfl
  have firstValue := start.evaluate_value 0 [left]
  have nothing : keptArguments? options 0 [left] [] = none := by
    rw [keptArguments?]
    split <;> rfl
  rw [nothing, Option.getD_none, formulaAtFirst, sourceAtFirst,
    evaluate_powerSource shape] at firstValue
  have secondValue := (start.after (.evaluate 0 [left])).evaluate_value 0 [right]
  have earlier :
      keptArguments? options 0 [right] ([] ++ [.evaluate 0 [left]]) =
        if options.cacheResults && left == right then some [left] else none := by
    rw [keptArguments?, firstArguments?_concat_of_some rfl]
    cases options.cacheResults with
    | false => rfl
    | true =>
        have single : ([left] == [right]) = (left == right) := by
          rw [List.cons_beq_cons]
          exact Bool.and_true _
        rw [if_pos rfl, beq_self_eq_true, Bool.true_and, Bool.true_and, single]
        rfl
  rw [earlier] at secondValue
  rw [Session.values, Session.values, Session.values, Session.value?,
    Session.value?, Option.toList_some, Option.toList_some, firstValue,
    secondValue]
  split
  · rw [Option.getD_some, List.nil_append, value]
    rfl
  · rw [Option.getD_none, List.nil_append, value]
    rfl

/-- Where keeping results makes no difference for a power, its exponent is scale free. -/
theorem scaleFree_of_values_powerSource
    {exponent : List Char}
    (shape : IsNumeral exponent)
    (precedence : Precedence)
    (transparent :
      ∀ requests : List Session.Request,
        (∀ request ∈ requests, request.KeepsSource) →
          ((Session.start (powerSource exponent) ⟨true, precedence⟩).values
              requests ==
            (Session.start (powerSource exponent) ⟨false, precedence⟩).values
              requests) = true) :
    (Number.ofText exponent).ScaleFree := by
  intro left right equal
  have keeps :
      ∀ request ∈ [Session.Request.evaluate 0 [left], .evaluate 0 [right]],
        request.KeepsSource := by
    intro request member
    rcases List.mem_cons.1 member with rfl | last
    · exact fun _ => rfl
    · rw [List.mem_singleton.1 last]
      exact fun _ => rfl
  have values := transparent _ keeps
  rw [values_powerSource shape, values_powerSource shape] at values
  simp only [equal, Bool.true_and, Bool.false_and, if_true, Bool.false_eq_true,
    if_false] at values
  rw [Number.beq_iff_keys] at values
  simp only [List.map_cons, List.cons.injEq, true_and] at values
  exact (Number.beq_iff_key _ _).2 values.1

/-! ## The exact condition -/

/--
Keeping results makes no difference to the values of any run over any source
with certain whole exponents exactly if those of these exponents that are not
below `1024` are scale free.
-/
theorem caching_transparent_iff
    (permitted : List Char → Prop) :
    (∀ source : Source, source.PowersWithin permitted →
      ∀ (precedence : Precedence) (requests : List Session.Request),
        (∀ request ∈ requests, request.KeepsSource) →
          ((Session.start source ⟨true, precedence⟩).values requests ==
            (Session.start source ⟨false, precedence⟩).values requests) =
              true) ↔
      LargeExponentsScaleFree permitted := by
  constructor
  · intro transparent text whole shape allowed isWhole _
    apply scaleFree_of_values_powerSource shape .climbing
    exact
      transparent _ (powersWithin_powerSource shape allowed isWhole) .climbing
  · intro scaleFree source within precedence requests keeps
    rw [Number.beq_iff_keys]
    exact
      (Coherent.start ⟨true, precedence⟩ source).keys_values
        (Coherent.start ⟨false, precedence⟩ source) rfl
        (within.formula scaleFree precedence) nofun keeps

/-- Two forms of one base have different powers with the exponent `1025`. -/
theorem not_scaleFree_of_wide :
    ¬(Number.ofText ['1', '0', '2', '5']).ScaleFree := by
  intro scaleFree
  have equal :=
    scaleFree (.finite ⟨false, 1045, 3, by decide, by decide⟩)
      (.finite ⟨false, 10450, 4, by decide, by decide⟩) (by decide)
  exact absurd equal (by decide +kernel)

/-- Keeping results makes a difference to powers with the exponent `1025`. -/
theorem caching_not_transparent :
    ¬∀ source : Source, source.PowersWithin (fun _ => True) →
      ∀ (precedence : Precedence) (requests : List Session.Request),
        (∀ request ∈ requests, request.KeepsSource) →
          ((Session.start source ⟨true, precedence⟩).values requests ==
            (Session.start source ⟨false, precedence⟩).values requests) =
              true := by
  intro transparent
  have shape : IsNumeral ['1', '0', '2', '5'] :=
    .intro (by decide) (List.all_eq_true.1 (by decide))
  have isWhole :
      (Number.ofText ['1', '0', '2', '5']).wholeExponent? = some 1025 := by
    decide +kernel
  apply not_scaleFree_of_wide
  apply scaleFree_of_values_powerSource shape .climbing
  exact
    transparent _ (powersWithin_powerSource shape trivial isWhole) .climbing

end Formulary
