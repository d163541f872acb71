import Formulary.Proofs.Engine.Run
import Formulary.Proofs.Number.Equality

/-!
# Coherence of the caches

`Coherent` says what the two caches of a session hold behind a list of
requests, in terms of the requests alone: a formula that was asked for is that
of the source at the first request for it, and a result is the value of this
formula under the arguments of the first request for it.  Numerically equal
arguments count as the same.

Each request keeps a session coherent, so a run from a fresh engine does.
`run_coherent` draws the consequences for stored results and for answers.
-/

namespace Formulary

/-! ## The caches by themselves -/

namespace FormulaCache

@[simp]
theorem get?_insert
    (cache : FormulaCache)
    (id other : FormulaId)
    (formula : Formula) :
    (cache.insert id formula).get? other =
      if other = id then some formula else cache.get? other := by
  rw [get?, insert, List.lookup_cons, get?]
  by_cases same : other = id
  · simp [same]
  · have differ : (other == id) = false := beq_false_of_ne same
    rw [if_neg same, differ]

/-- The formula at hand is the one that is kept, or that of the source. -/
theorem getOrParse_formula
    (cache : FormulaCache)
    (source : Source)
    (precedence : Precedence)
    (id : FormulaId) :
    (cache.getOrParse source precedence id).1 =
      (cache.get? id).getD (source.formula precedence id) := by
  rw [getOrParse, ← source.parse_formula]
  cases cache.get? id with
  | none => rfl
  | some formula => rfl

/-- The formula at hand is kept, and the other formulas stay what they are. -/
theorem get?_getOrParse
    (cache : FormulaCache)
    (source : Source)
    (precedence : Precedence)
    (id other : FormulaId) :
    (cache.getOrParse source precedence id).2.1.get? other =
      if other = id then
        some (cache.getOrParse source precedence id).1
      else
        cache.get? other := by
  simp only [getOrParse]
  cases kept : cache.get? id with
  | none => exact cache.get?_insert id other _
  | some formula =>
      by_cases same : other = id
      · rw [if_pos same, same]
        exact kept
      · rw [if_neg same]

/-- Entries of the cache are neither changed nor removed. -/
theorem suffix_getOrParse
    (cache : FormulaCache)
    (source : Source)
    (precedence : Precedence)
    (id : FormulaId) :
    cache.entries <:+ (cache.getOrParse source precedence id).2.1.entries := by
  rw [getOrParse]
  cases cache.get? id with
  | none => exact List.suffix_cons _ _
  | some formula => exact List.suffix_refl _

end FormulaCache

namespace ResultCache

/-- A result that is missing is added behind the others. -/
theorem insert_of_missing
    {cache : ResultCache}
    {id : FormulaId}
    {arguments : List Number}
    (missing : cache.get? id arguments = none)
    (value : Number) :
    cache.insert id arguments value =
      ⟨cache.entries ++ [⟨id, arguments, value⟩]⟩ := by
  rcases cache with ⟨entries⟩
  rw [get?, Option.map_eq_none_iff] at missing
  rw [insert, ResultCache.mk.injEq]
  induction entries with
  | nil => rfl
  | cons entry entries hypothesis =>
      rw [List.find?_cons] at missing
      split at missing
      · cases missing
      · rename_i other
        rw [insertEntry]
        simp only [other, Bool.false_eq_true, if_false]
        rw [hypothesis missing]
        rfl

/-- Behind an addition the new result is found where no earlier one is. -/
theorem get?_append
    (entries : List CachedResult)
    (added : CachedResult)
    (id : FormulaId)
    (arguments : List Number) :
    ResultCache.get? ⟨entries ++ [added]⟩ id arguments =
      (ResultCache.get? ⟨entries⟩ id arguments).or
        (if added.answers id arguments then some added.value else none) := by
  rw [get?, get?, List.find?_append, Option.map_or, List.find?_singleton]
  congr 1
  split
  · rfl
  · rfl

end ResultCache

/-! ## First requests -/

/-- A formula with a first request for a value was asked for. -/
theorem isAccessed_of_firstArguments?
    {id : FormulaId}
    {arguments first : List Number}
    {requests : List Session.Request}
    (found : firstArguments? id arguments requests = some first) :
    isAccessed id requests = true := by
  rcases Option.map_eq_some_iff.1 found with ⟨call, foundCall, _⟩
  have matching := List.find?_some foundCall
  have member := List.mem_of_find?_eq_some foundCall
  rcases List.mem_filterMap.1 member with ⟨request, inRequests, asks⟩
  rw [Bool.and_eq_true, beq_iff_eq] at matching
  have named := (Session.Request.id?_of_evaluation? asks).1
  rw [isAccessed, List.any_eq_true]
  exact ⟨request, inRequests, by rw [named, matching.1, beq_self_eq_true]⟩

/-- Numerically equal arguments have the same first request. -/
theorem firstArguments?_congr
    {left right : List Number}
    (same : (left == right) = true)
    (id : FormulaId)
    (requests : List Session.Request) :
    firstArguments? id left requests = firstArguments? id right requests := by
  have keys := (Number.beq_iff_keys left right).1 same
  have alike (call : List Number) : (call == left) = (call == right) := by
    rw [Bool.eq_iff_iff, Number.beq_iff_keys, Number.beq_iff_keys, keys]
  rw [firstArguments?, firstArguments?]
  simp only [alike]

/-- The arguments under which the value for a request is kept, if values are kept at all. -/
def keptArguments?
    (options : EngineOptions)
    (id : FormulaId)
    (arguments : List Number)
    (requests : List Session.Request) :
    Option (List Number) :=
  if options.cacheResults then
    firstArguments? id arguments requests
  else
    none

/-- A value is kept where values are kept at all and there is a first request for it. -/
theorem keptArguments?_eq_some_iff
    {options : EngineOptions}
    {id : FormulaId}
    {arguments first : List Number}
    {requests : List Session.Request} :
    keptArguments? options id arguments requests = some first ↔
      options.cacheResults = true ∧
        firstArguments? id arguments requests = some first := by
  rw [keptArguments?]
  cases options.cacheResults with
  | false => simp
  | true => simp

/-- Requests that do not ask for a value keep none. -/
theorem keptArguments?_concat_of_none
    {request : Session.Request}
    (silent : request.evaluation? = none)
    (options : EngineOptions)
    (id : FormulaId)
    (arguments : List Number)
    (requests : List Session.Request) :
    keptArguments? options id arguments (requests ++ [request]) =
      keptArguments? options id arguments requests := by
  rw [keptArguments?, firstArguments?_concat_of_none silent, keptArguments?]

/-- A request for which a value is kept is not the first of its kind. -/
theorem keptArguments?_concat_of_hit
    {options : EngineOptions}
    {request : Session.Request}
    {requests : List Session.Request}
    {asked : FormulaId}
    {given first : List Number}
    (asks : request.evaluation? = some (asked, given))
    (kept : keptArguments? options asked given requests = some first)
    (id : FormulaId)
    (arguments : List Number) :
    keptArguments? options id arguments (requests ++ [request]) =
      keptArguments? options id arguments requests := by
  rcases keptArguments?_eq_some_iff.1 kept with ⟨caching, found⟩
  rw [keptArguments?, keptArguments?, if_pos caching, if_pos caching,
    firstArguments?_concat_of_some asks]
  split
  · rename_i alike
    rw [Bool.and_eq_true, beq_iff_eq] at alike
    rcases alike with ⟨rfl, same⟩
    rw [← firstArguments?_congr same, found, Option.some_or]
  · rw [Option.or_none]

/-- The later session has the entries of the earlier one in both caches, as they were. -/
structure Session.Extends (later earlier : Session) : Prop where
  formulas :
    earlier.engine.formulas.entries <:+ later.engine.formulas.entries
  results :
    earlier.engine.results.entries <+: later.engine.results.entries

theorem Session.Extends.of_engine_eq
    {later earlier : Session}
    (same : later.engine = earlier.engine) :
    later.Extends earlier := by
  constructor
  · exact ⟨[], by simp only [same, List.nil_append]⟩
  · exact ⟨[], by simp only [same, List.append_nil]⟩

/-! ## The invariant -/

/-- What a session holds behind a list of requests, by the requests alone. -/
structure Coherent
    (options : EngineOptions)
    (source : Source)
    (requests : List Session.Request)
    (session : Session) :
    Prop where
  source_eq : session.source = sourceBehind source requests
  options_eq : session.engine.options = options
  /-- The formulas asked for are kept, and no others. -/
  formulas_eq :
    ∀ id,
      session.engine.formulas.get? id =
        if isAccessed id requests then
          some (formulaAtFirst options source requests id)
        else
          none
  /-- The values under the first arguments are found, and no others. -/
  results_eq :
    ∀ id arguments,
      session.engine.results.get? id arguments =
        (keptArguments? options id arguments requests).map
          (formulaAtFirst options source requests id).evaluate
  /-- Every entry holds the value of a formula that is kept. -/
  stored :
    ∀ result ∈ session.engine.results.entries,
      isAccessed result.id requests = true ∧
        result.value =
          (formulaAtFirst options source requests result.id).evaluate
            result.arguments

namespace Coherent

variable {options : EngineOptions} {source : Source}
variable {requests : List Session.Request} {session : Session}

theorem start
    (options : EngineOptions)
    (source : Source) :
    Coherent options source [] (.start source options) where
  source_eq := rfl
  options_eq := rfl
  formulas_eq _ := rfl
  results_eq id arguments := by
    rw [keptArguments?]
    split <;> rfl
  stored result member := absurd member List.not_mem_nil

/-! ### What requests are answered with -/

/-- A formula is answered as it was at the first request for it. -/
theorem formula_value
    (coherent : Coherent options source requests session)
    (id : FormulaId) :
    (session.formula id).value = formulaAtFirst options source requests id := by
  have answered :
      (session.formula id).value =
        (session.engine.formulas.get? id).getD
          (session.source.formula session.engine.options.precedence id) :=
    FormulaCache.getOrParse_formula _ _ _ _
  rw [answered, coherent.formulas_eq]
  split
  · rfl
  · rename_i untouched
    rw [Option.getD_none, coherent.source_eq, coherent.options_eq,
      formulaAtFirst,
      sourceAtFirst_of_not_isAccessed (Bool.eq_false_iff.2 untouched)]

/-- A value is that of the formula, under the arguments for which a value is kept. -/
theorem evaluate_value
    (coherent : Coherent options source requests session)
    (id : FormulaId)
    (arguments : List Number) :
    (session.evaluate id arguments).value =
      (formulaAtFirst options source requests id).evaluate
        ((keptArguments? options id arguments requests).getD arguments) := by
  have computed :
      (session.engine.compute session.source id arguments).value =
        (formulaAtFirst options source requests id).evaluate arguments := by
    rw [← coherent.formula_value id, Engine.compute]
    split <;> rfl
  rw [Session.evaluate, Engine.evaluate, coherent.results_eq,
    coherent.options_eq]
  cases kept : keptArguments? options id arguments requests with
  | none =>
      rw [Option.getD_none, ← computed]
      split <;> rfl
  | some first =>
      rw [if_pos (keptArguments?_eq_some_iff.1 kept).1]
      rfl

/-! ### What requests leave behind -/

/-- Behind an access the formula for it is kept, and the others stay what they are. -/
theorem formulas_access
    (coherent : Coherent options source requests session)
    {request : Session.Request}
    {id : FormulaId}
    (asks : request.id? = some id)
    (unchanged : ∀ source, request.sourceAfter source = source)
    (other : FormulaId) :
    (session.formula id).engine.formulas.get? other =
      if isAccessed other (requests ++ [request]) then
        some (formulaAtFirst options source (requests ++ [request]) other)
      else
        none := by
  have kept :
      (session.formula id).engine.formulas.get? other =
        if other = id then
          some (session.formula id).value
        else
          session.engine.formulas.get? other :=
    FormulaCache.get?_getOrParse _ _ _ _ _
  rw [kept, coherent.formula_value, coherent.formulas_eq,
    formulaAtFirst_concat options source (Or.inr unchanged),
    isAccessed_concat, asks]
  by_cases same : other = id
  · rw [if_pos same, same, beq_self_eq_true, Bool.or_true, if_pos rfl]
  · have differ : (some id == some other) = false :=
      beq_false_of_ne fun equal => same (Option.some.inj equal).symm
    rw [if_neg same, differ, Bool.or_false]

/-- What is kept stays right as long as no other request becomes the first of its kind. -/
theorem results_keep
    (coherent : Coherent options source requests session)
    {request : Session.Request}
    (same :
      ∀ id arguments,
        keptArguments? options id arguments (requests ++ [request]) =
          keptArguments? options id arguments requests)
    (id : FormulaId)
    (arguments : List Number) :
    session.engine.results.get? id arguments =
      (keptArguments? options id arguments (requests ++ [request])).map
        (formulaAtFirst options source (requests ++ [request]) id).evaluate := by
  rw [coherent.results_eq, same]
  cases kept : keptArguments? options id arguments requests with
  | none => rfl
  | some first =>
      have accessed :=
        isAccessed_of_firstArguments? (keptArguments?_eq_some_iff.1 kept).2
      rw [formulaAtFirst_concat options source (Or.inl accessed)]

/-- The entries stay right behind a further request. -/
theorem stored_keep
    (coherent : Coherent options source requests session)
    (request : Session.Request)
    {result : CachedResult}
    (member : result ∈ session.engine.results.entries) :
    isAccessed result.id (requests ++ [request]) = true ∧
      result.value =
        (formulaAtFirst options source (requests ++ [request])
          result.id).evaluate result.arguments := by
  rcases coherent.stored result member with ⟨accessed, value⟩
  constructor
  · rw [isAccessed_concat, accessed, Bool.true_or]
  · rw [formulaAtFirst_concat options source (Or.inl accessed)]
    exact value

/-- Where values are kept, a missing one is added to the results. -/
theorem results_add
    (coherent : Coherent options source requests session)
    {request : Session.Request}
    {asked : FormulaId}
    {given : List Number}
    (asks : request.evaluation? = some (asked, given))
    (caching : options.cacheResults = true)
    (id : FormulaId)
    (arguments : List Number) :
    ResultCache.get?
        ⟨session.engine.results.entries ++
          [⟨asked, given,
            (formulaAtFirst options source requests asked).evaluate given⟩]⟩
        id arguments =
      (keptArguments? options id arguments (requests ++ [request])).map
        (formulaAtFirst options source (requests ++ [request]) id).evaluate := by
  have unchanged := (Session.Request.id?_of_evaluation? asks).2
  rw [ResultCache.get?_append,
    formulaAtFirst_concat options source (Or.inr unchanged),
    keptArguments?, if_pos caching, firstArguments?_concat_of_some asks]
  have earlier := coherent.results_eq id arguments
  rw [keptArguments?, if_pos caching] at earlier
  have earlier :
      ResultCache.get? ⟨session.engine.results.entries⟩ id arguments =
        (firstArguments? id arguments requests).map
          (formulaAtFirst options source requests id).evaluate :=
    earlier
  rw [earlier, Option.map_or]
  congr 1
  rw [CachedResult.answers]
  by_cases alike : (asked == id && given == arguments) = true
  · rw [if_pos alike, if_pos alike]
    rw [Bool.and_eq_true, beq_iff_eq] at alike
    rw [alike.1]
    rfl
  · rw [if_neg alike, if_neg alike]
    rfl

/-- The engine behind a request for a value that is kept is the engine before it. -/
theorem evaluate_engine_of_some
    (coherent : Coherent options source requests session)
    {id : FormulaId}
    {arguments first : List Number}
    (kept : keptArguments? options id arguments requests = some first) :
    (session.evaluate id arguments).engine = session.engine := by
  rw [Session.evaluate, Engine.evaluate, coherent.options_eq,
    if_pos (keptArguments?_eq_some_iff.1 kept).1, coherent.results_eq, kept]
  rfl

/-- The engine behind a request for a value that is not kept: it has the formula, and the value if it keeps values. -/
theorem evaluate_engine_of_none
    (coherent : Coherent options source requests session)
    {id : FormulaId}
    {arguments : List Number}
    (missing : keptArguments? options id arguments requests = none) :
    (session.evaluate id arguments).engine =
      { (session.formula id).engine with
        results :=
          if options.cacheResults then
            ⟨session.engine.results.entries ++
              [⟨id, arguments,
                (formulaAtFirst options source requests id).evaluate arguments⟩]⟩
          else
            session.engine.results } := by
  have absent : session.engine.results.get? id arguments = none := by
    rw [coherent.results_eq, missing, Option.map_none]
  rw [Session.evaluate, Engine.evaluate, coherent.options_eq, Engine.compute,
    coherent.options_eq]
  split
  · rw [absent, ← coherent.formula_value id,
      ← ResultCache.insert_of_missing absent]
    rfl
  · rfl

/-! ### Every request keeps a session coherent -/

theorem after_of_evaluation?
    (coherent : Coherent options source requests session)
    {request : Session.Request}
    {id : FormulaId}
    {arguments : List Number}
    (asks : request.evaluation? = some (id, arguments)) :
    Coherent options source (requests ++ [request]) (session.after request) := by
  rcases Session.Request.id?_of_evaluation? asks with ⟨access, unchanged⟩
  have sameSource :
      session.source = sourceBehind source (requests ++ [request]) := by
    rw [sourceBehind_concat, unchanged]
    exact coherent.source_eq
  rw [(Session.after_of_evaluation? asks session).1]
  cases kept : keptArguments? options id arguments requests with
  | some first =>
      have sameEngine :
          (session.record (session.evaluate id arguments)).engine =
            session.engine :=
        coherent.evaluate_engine_of_some kept
      have accessed :=
        isAccessed_of_firstArguments? (keptArguments?_eq_some_iff.1 kept).2
      refine ⟨sameSource, ?_, ?_, ?_, ?_⟩
      · rw [sameEngine, coherent.options_eq]
      · intro other
        rw [sameEngine, coherent.formulas_eq, isAccessed_concat, access,
          formulaAtFirst_concat options source (Or.inr unchanged)]
        by_cases same : id = other
        · rw [← same, accessed, Bool.true_or]
        · have differ : (some id == some other) = false :=
            beq_false_of_ne fun equal => same (Option.some.inj equal)
          rw [differ, Bool.or_false]
      · rw [sameEngine]
        exact coherent.results_keep (keptArguments?_concat_of_hit asks kept)
      · rw [sameEngine]
        exact fun result member => coherent.stored_keep request member
  | none =>
      have nextEngine := coherent.evaluate_engine_of_none kept
      refine ⟨sameSource, ?_, ?_, ?_, ?_⟩
      · show (session.evaluate id arguments).engine.options = options
        rw [nextEngine]
        exact coherent.options_eq
      · intro other
        show (session.evaluate id arguments).engine.formulas.get? other = _
        rw [nextEngine]
        exact coherent.formulas_access access unchanged other
      · intro other given
        show (session.evaluate id arguments).engine.results.get? other given = _
        rw [nextEngine]
        simp only
        split
        · rename_i caching
          exact coherent.results_add asks caching other given
        · rename_i noCaching
          apply coherent.results_keep
          intro _ _
          rw [keptArguments?, if_neg noCaching, keptArguments?, if_neg noCaching]
      · intro result member
        have member :
            result ∈ (session.evaluate id arguments).engine.results.entries :=
          member
        rw [nextEngine] at member
        simp only at member
        split at member
        · rcases List.mem_append.1 member with earlier | added
          · exact coherent.stored_keep request earlier
          · rw [List.mem_singleton] at added
            subst added
            rw [isAccessed_concat, access, beq_self_eq_true, Bool.or_true,
              formulaAtFirst_concat options source (Or.inr unchanged)]
            exact ⟨rfl, rfl⟩
        · exact coherent.stored_keep request member

/-- A request that asks for no formula leaves a session coherent, if it leaves the engine alone. -/
theorem idle
    (coherent : Coherent options source requests session)
    {request : Session.Request}
    {next : Session}
    (silent : request.id? = none)
    (sameEngine : next.engine = session.engine)
    (nextSource : next.source = request.sourceAfter session.source) :
    Coherent options source (requests ++ [request]) next := by
  have noValue : request.evaluation? = none := by
    cases asks : request.evaluation? with
    | none => rfl
    | some call =>
        have named := (Session.Request.id?_of_evaluation? asks).1
        rw [silent] at named
        cases named
  refine ⟨?_, ?_, ?_, ?_, ?_⟩
  · rw [sourceBehind_concat, nextSource, coherent.source_eq]
  · rw [sameEngine, coherent.options_eq]
  · intro id
    have differ : ((none : Option FormulaId) == some id) = false := rfl
    rw [sameEngine, coherent.formulas_eq, isAccessed_concat, silent, differ,
      Bool.or_false]
    split
    · rename_i accessed
      rw [formulaAtFirst_concat options source (Or.inl accessed)]
    · rfl
  · rw [sameEngine]
    apply coherent.results_keep
    intro id arguments
    exact keptArguments?_concat_of_none noValue options id arguments requests
  · rw [sameEngine]
    exact fun result member => coherent.stored_keep request member

theorem after_formula
    (coherent : Coherent options source requests session)
    (id : FormulaId) :
    Coherent options source (requests ++ [.formula id])
      (session.after (.formula id)) := by
  refine ⟨?_, ?_, ?_, ?_, ?_⟩
  · rw [sourceBehind_concat]
    exact coherent.source_eq
  · exact coherent.options_eq
  · exact coherent.formulas_access rfl fun _ => rfl
  · apply coherent.results_keep
    intro id arguments
    exact keptArguments?_concat_of_none rfl options id arguments requests
  · exact fun result member => coherent.stored_keep (.formula id) member

/-- Every request keeps a session coherent. -/
theorem after
    (coherent : Coherent options source requests session)
    (request : Session.Request) :
    Coherent options source (requests ++ [request]) (session.after request) := by
  cases request with
  | evaluate id arguments => exact coherent.after_of_evaluation? rfl
  | evaluateTexts id arguments => exact coherent.after_of_evaluation? rfl
  | formula id => exact coherent.after_formula id
  | replaceSink => exact coherent.idle rfl rfl rfl
  | redefine changed => exact coherent.idle rfl rfl rfl

/-- Every run keeps a session coherent. -/
theorem run
    (coherent : Coherent options source requests session)
    (more : List Session.Request) :
    Coherent options source (requests ++ more) (session.run more) := by
  induction more generalizing requests session with
  | nil =>
      rw [List.append_nil]
      exact coherent
  | cons request more hypothesis =>
      have stepped := hypothesis (coherent.after request)
      rw [List.append_assoc, List.singleton_append] at stepped
      exact stepped

/-- Where values are not kept, there are no results. -/
theorem results_nil
    (coherent : Coherent options source requests session)
    (noCaching : options.cacheResults = false) :
    session.engine.results.entries = [] := by
  cases entries : session.engine.results.entries with
  | nil => rfl
  | cons result results =>
      have missing := coherent.results_eq result.id result.arguments
      rw [keptArguments?, noCaching, if_neg Bool.false_ne_true, Option.map_none,
        ResultCache.get?, Option.map_eq_none_iff, List.find?_eq_none] at missing
      have unmatched :=
        missing result (by rw [entries]; exact List.mem_cons_self)
      have own : result.answers result.id result.arguments = true := by
        rw [CachedResult.answers, beq_self_eq_true, Bool.true_and,
          Number.beq_iff_keys]
      exact absurd own unmatched

/-! ### Entries are only added -/

theorem extends_of_evaluation?
    (coherent : Coherent options source requests session)
    {request : Session.Request}
    {id : FormulaId}
    {arguments : List Number}
    (asks : request.evaluation? = some (id, arguments)) :
    (session.after request).Extends session := by
  rw [(Session.after_of_evaluation? asks session).1]
  cases kept : keptArguments? options id arguments requests with
  | some first =>
      exact .of_engine_eq (coherent.evaluate_engine_of_some kept)
  | none =>
      have nextEngine := coherent.evaluate_engine_of_none kept
      constructor
      · show session.engine.formulas.entries <:+
          (session.evaluate id arguments).engine.formulas.entries
        rw [nextEngine]
        exact FormulaCache.suffix_getOrParse _ _ _ _
      · show session.engine.results.entries <+:
          (session.evaluate id arguments).engine.results.entries
        rw [nextEngine]
        simp only
        split
        · exact List.prefix_append _ _
        · exact List.prefix_refl _

theorem extends_after
    (coherent : Coherent options source requests session)
    (request : Session.Request) :
    (session.after request).Extends session := by
  cases request with
  | evaluate id arguments => exact coherent.extends_of_evaluation? rfl
  | evaluateTexts id arguments => exact coherent.extends_of_evaluation? rfl
  | formula id =>
      exact ⟨FormulaCache.suffix_getOrParse _ _ _ _, List.prefix_refl _⟩
  | replaceSink => exact .of_engine_eq rfl
  | redefine changed => exact .of_engine_eq rfl

/-- The entries of a session are those of every later one, with others added. -/
theorem extends_run
    (coherent : Coherent options source requests session)
    (more : List Session.Request) :
    (session.run more).Extends session := by
  induction more generalizing requests session with
  | nil => exact .of_engine_eq rfl
  | cons request more hypothesis =>
      have first := coherent.extends_after request
      have further := hypothesis (coherent.after request)
      exact
        ⟨first.formulas.trans further.formulas,
          first.results.trans further.results⟩

end Coherent

/--
The caches of every run from a fresh engine are coherent.  The formula kept
for a number is that of the definition at the first request for it; every
result is the value of such a formula, and neither kind of entry is changed or
removed later.  A request for a value is answered with the value of that
formula, under the arguments of the earliest request with numerically equal
ones if results are kept, and under its own arguments otherwise.
-/
theorem run_coherent
    (options : EngineOptions)
    (source : Source)
    (requests : List Session.Request) :
    let session := (Session.start source options).run requests
    (∀ id,
      session.engine.formulas.get? id =
        if isAccessed id requests then
          some (formulaAtFirst options source requests id)
        else
          none) ∧
      (∀ result ∈ session.engine.results.entries,
        session.engine.formulas.get? result.id =
            some (formulaAtFirst options source requests result.id) ∧
          result.value =
            (formulaAtFirst options source requests result.id).evaluate
              result.arguments) ∧
      (options.cacheResults = false →
        session.engine.results.entries = []) ∧
      (∀ more,
        session.engine.formulas.entries <:+
            (session.run more).engine.formulas.entries ∧
          session.engine.results.entries <+:
            (session.run more).engine.results.entries) ∧
      ∀ request id arguments,
        request.evaluation? = some (id, arguments) →
          session.value? request =
            some
              ((formulaAtFirst options source requests id).evaluate
                (if options.cacheResults then
                  (firstArguments? id arguments requests).getD arguments
                else
                  arguments)) := by
  have coherent :
      Coherent options source requests
        ((Session.start source options).run requests) := by
    have ran := (Coherent.start options source).run requests
    rw [List.nil_append] at ran
    exact ran
  refine ⟨coherent.formulas_eq, ?_, coherent.results_nil, ?_, ?_⟩
  · intro result member
    rcases coherent.stored result member with ⟨accessed, value⟩
    rw [coherent.formulas_eq, if_pos accessed]
    exact ⟨rfl, value⟩
  · intro more
    have kept := coherent.extends_run more
    exact ⟨kept.formulas, kept.results⟩
  · intro request id arguments asks
    rw [(Session.after_of_evaluation? asks _).2, coherent.evaluate_value,
      keptArguments?]
    split
    · rfl
    · rfl

end Formulary
