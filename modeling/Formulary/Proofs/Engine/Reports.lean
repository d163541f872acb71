import Formulary.Proofs.Engine.Coherence

/-!
# What a run reads and reports

`Session.occurrences` lists the events of a run one after the other.  Each of
them is marked with the formula that was asked for and with the sink that was
installed; sinks are numbered in the order of their installation, and a
reported message goes to the one that is installed.

A formula that was asked for causes at most hits later on, and the first
request for it causes the events of reading its definition.  By induction on
the run, `run_reads_and_reports` counts the reads of each definition and
collects the messages about it: they depend on the source and on the sink at
the first request.
-/

namespace Formulary

/-! ## Events of one request -/

namespace Event

/-- The source was asked for the definition with the number. -/
def readsFor (id : FormulaId) : Event → Bool
  | .read other => other == id
  | _ => false

/-- A result was found in the cache. -/
def IsHit (event : Event) : Prop :=
  ∃ id arguments, event = .hit id arguments

theorem IsHit.message?_eq_none
    {event : Event}
    (isHit : event.IsHit) :
    event.message? = none := by
  rcases isHit with ⟨id, arguments, rfl⟩
  rfl

theorem IsHit.readsFor_eq_false
    {event : Event}
    (isHit : event.IsHit)
    (id : FormulaId) :
    event.readsFor id = false := by
  rcases isHit with ⟨asked, arguments, rfl⟩
  rfl

end Event

namespace Source

/-- The message about a definition that is missing, or whose text has a fault. -/
def fault?
    (source : Source)
    (precedence : Precedence)
    (id : FormulaId) :
    Option String :=
  match source id with
  | none => some (unknownFormulaMessage id)
  | some definition =>
      match
        Formula.parse precedence definition.parameters
          definition.expression with
      | .ok _ => none
      | .error fault => some fault.message

variable (source : Source) (precedence : Precedence) (id : FormulaId)

/-- Getting a formula reports the fault of its definition and nothing else. -/
theorem messagesOf_parse :
    messagesOf (source.parse precedence id).2 =
      (source.fault? precedence id).toList := by
  rw [parse, fault?]
  cases source id with
  | none => rfl
  | some definition =>
      simp only [Formula.parseOrInvalid]
      cases
        Formula.parse precedence definition.parameters
          definition.expression with
      | ok parsed => rfl
      | error fault => rfl

/-- Getting a formula reads its definition once and no other one. -/
theorem countP_readsFor_parse
    (other : FormulaId) :
    (source.parse precedence id).2.countP (Event.readsFor other) =
      if id == other then 1 else 0 := by
  have noOther (message? : Option String) :
      (message?.map Event.fault).toList.countP (Event.readsFor other) = 0 := by
    cases message? <;> rfl
  rw [parse]
  cases source id with
  | none => simp [List.countP_cons, Event.readsFor]
  | some definition => simp [List.countP_cons, noOther, Event.readsFor]

/-- Getting a formula asks the source once. -/
theorem readsOf_parse :
    readsOf (source.parse precedence id).2 = 1 := by
  have noRead (message? : Option String) :
      (message?.map Event.fault).toList.countP Event.isRead = 0 := by
    cases message? <;> rfl
  rw [parse, readsOf]
  cases source id with
  | none => rfl
  | some definition => simp [List.countP_cons, noRead, Event.isRead]

end Source

namespace Session

/-- What happens while a request is answered. -/
def events (session : Session) : Request → List Event
  | .evaluate id arguments => (session.evaluate id arguments).events
  | .evaluateTexts id arguments => (session.evaluateTexts id arguments).events
  | .formula id => (session.formula id).events
  | .replaceSink => []
  | .redefine _ => []

/-- Evaluation causes a hit, or the events of getting the formula. -/
theorem events_evaluate
    (session : Session)
    (id : FormulaId)
    (arguments : List Number) :
    (session.evaluate id arguments).events =
      if session.engine.options.cacheResults ∧
          (session.engine.results.get? id arguments).isSome then
        [.hit id arguments]
      else
        (session.formula id).events := by
  have computed :
      (session.engine.compute session.source id arguments).events =
        (session.formula id).events := by
    rw [Engine.compute]
    split <;> rfl
  rw [evaluate, Engine.evaluate]
  cases session.engine.options.cacheResults with
  | false => simpa using computed
  | true =>
      cases session.engine.results.get? id arguments with
      | none => simpa using computed
      | some value => simp

/-- Asking for a formula causes nothing if it is kept, and otherwise the events of getting it. -/
theorem events_formula
    (session : Session)
    (id : FormulaId) :
    (session.formula id).events =
      if (session.engine.formulas.get? id).isSome then
        []
      else
        (session.source.parse session.engine.options.precedence id).2 := by
  rw [formula, Engine.formula, FormulaCache.getOrParse]
  cases session.engine.formulas.get? id with
  | none => rfl
  | some formula => rfl

end Session

namespace Coherent

variable {options : EngineOptions} {source : Source}
variable {requests : List Session.Request} {session : Session}

/-- The formulas that are kept are those that were asked for. -/
theorem isSome_formula
    (coherent : Coherent options source requests session)
    (id : FormulaId) :
    (session.engine.formulas.get? id).isSome = isAccessed id requests := by
  rw [coherent.formulas_eq]
  cases isAccessed id requests <;> rfl

/-- Asking for a formula again causes nothing. -/
theorem events_formula_of_isAccessed
    (coherent : Coherent options source requests session)
    {id : FormulaId}
    (accessed : isAccessed id requests = true) :
    (session.formula id).events = [] := by
  rw [Session.events_formula, coherent.isSome_formula, if_pos accessed]

/-- Asking for a formula the first time causes the events of getting it. -/
theorem events_formula_of_not_isAccessed
    (coherent : Coherent options source requests session)
    {id : FormulaId}
    (untouched : isAccessed id requests = false) :
    (session.formula id).events =
      (session.source.parse options.precedence id).2 := by
  rw [Session.events_formula, coherent.isSome_formula, coherent.options_eq,
    if_neg (Bool.eq_false_iff.1 untouched)]

/-- No result is kept for a formula that was not asked for. -/
theorem get?_results_of_not_isAccessed
    (coherent : Coherent options source requests session)
    {id : FormulaId}
    (untouched : isAccessed id requests = false)
    (arguments : List Number) :
    session.engine.results.get? id arguments = none := by
  rw [coherent.results_eq]
  cases kept : keptArguments? options id arguments requests with
  | none => rfl
  | some first =>
      have accessed :=
        isAccessed_of_firstArguments? (keptArguments?_eq_some_iff.1 kept).2
      rw [untouched] at accessed
      exact absurd accessed Bool.false_ne_true

/-- A request for a formula that was asked for before causes at most a hit. -/
theorem isHit_of_isAccessed
    (coherent : Coherent options source requests session)
    {request : Session.Request}
    {id : FormulaId}
    (asks : request.id? = some id)
    (accessed : isAccessed id requests = true) :
    ∀ event ∈ session.events request, event.IsHit := by
  have kept := coherent.events_formula_of_isAccessed accessed
  have evaluation (arguments : List Number) :
      ∀ event ∈ (session.evaluate id arguments).events, event.IsHit := by
    intro event member
    rw [Session.events_evaluate, kept] at member
    split at member
    · exact ⟨id, arguments, List.mem_singleton.1 member⟩
    · exact absurd member List.not_mem_nil
  cases request with
  | evaluate asked arguments =>
      cases asks
      exact evaluation arguments
  | evaluateTexts asked arguments =>
      cases asks
      exact evaluation (arguments.map Number.ofString)
  | formula asked =>
      cases asks
      intro event member
      rw [Session.events, kept] at member
      exact absurd member List.not_mem_nil
  | replaceSink => cases asks
  | redefine changed => cases asks

/-- The first request for a formula causes the events of getting it. -/
theorem events_of_not_isAccessed
    (coherent : Coherent options source requests session)
    {request : Session.Request}
    {id : FormulaId}
    (asks : request.id? = some id)
    (untouched : isAccessed id requests = false) :
    session.events request =
      (session.source.parse options.precedence id).2 := by
  have gets := coherent.events_formula_of_not_isAccessed untouched
  have evaluation (arguments : List Number) :
      (session.evaluate id arguments).events =
        (session.source.parse options.precedence id).2 := by
    have missing := coherent.get?_results_of_not_isAccessed untouched arguments
    rw [Session.events_evaluate, missing, gets]
    simp
  cases request with
  | evaluate asked arguments =>
      cases asks
      exact evaluation arguments
  | evaluateTexts asked arguments =>
      cases asks
      exact evaluation (arguments.map Number.ofString)
  | formula asked =>
      cases asks
      exact gets
  | replaceSink => cases asks
  | redefine changed => cases asks

end Coherent

/-! ## Events of a run -/

/-- An event of a run, with the sink installed at that time and the formula that was asked for. -/
structure Occurrence where
  sink : Nat
  id : FormulaId
  event : Event

/-- The sink behind a request; a new one has the next number. -/
def Session.Request.sinkAfter (sink : Nat) : Session.Request → Nat
  | .replaceSink => sink + 1
  | _ => sink

/-- The events of a request that asks for a formula, with a given sink. -/
def Session.occurrencesOf
    (session : Session)
    (sink : Nat)
    (request : Session.Request) :
    List Occurrence :=
  match request.id? with
  | none => []
  | some id => (session.events request).map (⟨sink, id, ·⟩)

/-- The events of a run that begins with a given sink. -/
def Session.occurrences
    (session : Session)
    (sink : Nat) :
    (requests : List Session.Request) → List Occurrence
  | [] => []
  | request :: requests =>
      session.occurrencesOf sink request ++
        (session.after request).occurrences (request.sinkAfter sink) requests

/-- The sink behind a list of requests. -/
def sinkBehind (sink : Nat) (requests : List Session.Request) : Nat :=
  requests.foldl Session.Request.sinkAfter sink

/-- The sink at the first request for a formula, or behind all requests if there is none. -/
def sinkAtFirst
    (id : FormulaId) :
    (sink : Nat) → (requests : List Session.Request) → Nat
  | sink, [] => sink
  | sink, request :: requests =>
      if request.id? == some id then
        sink
      else
        sinkAtFirst id (request.sinkAfter sink) requests

/-- How often the source was asked for a definition. -/
def readsFor (id : FormulaId) (occurrences : List Occurrence) : Nat :=
  occurrences.countP (·.event.readsFor id)

/-- The messages that were reported while a formula was asked for, with their sinks. -/
def reportsFor
    (id : FormulaId)
    (occurrences : List Occurrence) :
    List (Nat × String) :=
  occurrences.filterMap fun occurrence =>
    if occurrence.id == id then
      occurrence.event.message?.map (occurrence.sink, ·)
    else
      none

/-- The messages that were reported to a sink. -/
def messagesTo (sink : Nat) (occurrences : List Occurrence) : List String :=
  occurrences.filterMap fun occurrence =>
    if occurrence.sink == sink then occurrence.event.message? else none

theorem readsFor_append
    (id : FormulaId)
    (front back : List Occurrence) :
    readsFor id (front ++ back) = readsFor id front + readsFor id back :=
  List.countP_append

theorem reportsFor_append
    (id : FormulaId)
    (front back : List Occurrence) :
    reportsFor id (front ++ back) = reportsFor id front ++ reportsFor id back :=
  List.filterMap_append

theorem messagesTo_append
    (sink : Nat)
    (front back : List Occurrence) :
    messagesTo sink (front ++ back) =
      messagesTo sink front ++ messagesTo sink back :=
  List.filterMap_append

section

variable (sink : Nat) (asked : FormulaId) (events : List Event)

theorem readsFor_map
    (id : FormulaId) :
    readsFor id (events.map (⟨sink, asked, ·⟩)) =
      events.countP (Event.readsFor id) :=
  List.countP_map

theorem reportsFor_map
    (id : FormulaId) :
    reportsFor id (events.map (⟨sink, asked, ·⟩)) =
      if asked == id then (messagesOf events).map (sink, ·) else [] := by
  rw [reportsFor, List.filterMap_map]
  cases same : asked == id with
  | true =>
      rw [if_pos rfl, messagesOf, List.map_filterMap]
      congr 1
      funext event
      exact if_pos same
  | false =>
      rw [if_neg Bool.false_ne_true, List.filterMap_eq_nil_iff]
      intro event _
      exact if_neg (Bool.eq_false_iff.1 same)

theorem messagesTo_map
    (target : Nat) :
    messagesTo target (events.map (⟨sink, asked, ·⟩)) =
      if sink == target then messagesOf events else [] := by
  rw [messagesTo, List.filterMap_map]
  cases same : sink == target with
  | true =>
      rw [if_pos rfl, messagesOf]
      congr 1
      funext event
      exact if_pos same
  | false =>
      rw [if_neg Bool.false_ne_true, List.filterMap_eq_nil_iff]
      intro event _
      exact if_neg (Bool.eq_false_iff.1 same)

end

/-! ### The events of one request among those of a run -/

namespace Coherent

variable {options : EngineOptions} {source : Source}
variable {before : List Session.Request} {session : Session}

/-- A request reads the definition of a formula if it is the first one for it. -/
theorem readsFor_occurrencesOf
    (coherent : Coherent options source before session)
    (sink : Nat)
    (request : Session.Request)
    (id : FormulaId) :
    readsFor id (session.occurrencesOf sink request) =
      if isAccessed id before then
        0
      else if request.id? == some id then
        1
      else
        0 := by
  rw [Session.occurrencesOf]
  cases asks : request.id? with
  | none => simp [readsFor]
  | some asked =>
      rw [readsFor_map]
      cases accessed : isAccessed asked before with
      | true =>
          have noRead :
              (session.events request).countP (Event.readsFor id) = 0 := by
            rw [List.countP_eq_zero]
            intro event member
            have isHit := coherent.isHit_of_isAccessed asks accessed event member
            rw [isHit.readsFor_eq_false]
            exact Bool.false_ne_true
          rw [noRead]
          split
          · rfl
          · rename_i untouched
            split
            · rename_i same
              rw [beq_iff_eq, Option.some.injEq] at same
              exact absurd (same ▸ accessed) untouched
            · rfl
      | false =>
          rw [coherent.events_of_not_isAccessed asks accessed,
            Source.countP_readsFor_parse, Option.some_beq_some]
          split
          · rename_i same
            rw [beq_iff_eq] at same
            subst same
            rw [accessed, if_neg Bool.false_ne_true]
          · rw [ite_self]

/-- A request reports the fault of a formula if it is the first one for it. -/
theorem reportsFor_occurrencesOf
    (coherent : Coherent options source before session)
    (sink : Nat)
    (request : Session.Request)
    (id : FormulaId) :
    reportsFor id (session.occurrencesOf sink request) =
      if isAccessed id before then
        []
      else if request.id? == some id then
        (session.source.fault? options.precedence id).toList.map (sink, ·)
      else
        [] := by
  rw [Session.occurrencesOf]
  cases asks : request.id? with
  | none => simp [reportsFor]
  | some asked =>
      rw [reportsFor_map, Option.some_beq_some]
      by_cases same : asked = id
      · subst same
        rw [beq_self_eq_true, if_pos rfl, if_pos rfl]
        cases accessed : isAccessed asked before with
        | true =>
            have silent : messagesOf (session.events request) = [] := by
              rw [messagesOf, List.filterMap_eq_nil_iff]
              intro event member
              exact
                (coherent.isHit_of_isAccessed asks accessed event
                  member).message?_eq_none
            rw [silent]
            rfl
        | false =>
            rw [coherent.events_of_not_isAccessed asks accessed,
              Source.messagesOf_parse]
            rfl
      · rw [beq_false_of_ne same, if_neg Bool.false_ne_true,
          if_neg Bool.false_ne_true, ite_self]

/-! ### Runs -/

/-- A run reads a definition that was not read before once if it asks for the formula. -/
theorem readsFor_occurrences
    (coherent : Coherent options source before session)
    (sink : Nat)
    (requests : List Session.Request)
    (id : FormulaId) :
    readsFor id (session.occurrences sink requests) =
      if isAccessed id before then
        0
      else if isAccessed id requests then
        1
      else
        0 := by
  induction requests generalizing before session sink with
  | nil =>
      split
      · rfl
      · rfl
  | cons request requests hypothesis =>
      rw [Session.occurrences, readsFor_append,
        coherent.readsFor_occurrencesOf,
        hypothesis (coherent.after request), isAccessed_concat]
      have unfolded :
          isAccessed id (request :: requests) =
            (request.id? == some id || isAccessed id requests) :=
        rfl
      rw [unfolded]
      cases isAccessed id before <;> cases (request.id? == some id) <;> simp

/--
A run reports the fault of a formula that was not asked for before when it
first asks for it, to the sink that is installed then.
-/
theorem reportsFor_occurrences
    (coherent : Coherent options source before session)
    (sink : Nat)
    (requests : List Session.Request)
    (id : FormulaId) :
    reportsFor id (session.occurrences sink requests) =
      if isAccessed id before then
        []
      else if isAccessed id requests then
        (((sourceAtFirst id session.source requests).fault?
          options.precedence id).toList.map
            (sinkAtFirst id sink requests, ·))
      else
        [] := by
  induction requests generalizing before session sink with
  | nil =>
      split
      · rfl
      · rfl
  | cons request requests hypothesis =>
      have nextSource :
          (session.after request).source =
            request.sourceAfter session.source := by
        cases request <;> rfl
      rw [Session.occurrences, reportsFor_append,
        coherent.reportsFor_occurrencesOf,
        hypothesis (coherent.after request), isAccessed_concat, nextSource]
      have unfolded :
          isAccessed id (request :: requests) =
            (request.id? == some id || isAccessed id requests) :=
        rfl
      rw [unfolded, sourceAtFirst, sinkAtFirst]
      cases isAccessed id before <;> cases (request.id? == some id) <;> simp

end Coherent

/-! ### The state of a session behind a run -/

namespace Session

/-- A request adds as many formulas as it reads definitions. -/
theorem reads_after
    {session : Session}
    (counted : session.reads = session.engine.formulas.size)
    (request : Request) :
    (session.after request).reads =
      (session.after request).engine.formulas.size := by
  have formulas (id : FormulaId) :
      session.reads + readsOf (session.formula id).events =
        (session.formula id).engine.formulas.size := by
    rw [counted, formula, Engine.formula, FormulaCache.getOrParse]
    cases session.engine.formulas.get? id with
    | some formula => rfl
    | none => simp [Source.readsOf_parse, FormulaCache.size, FormulaCache.insert]
  have evaluation (id : FormulaId) (arguments : List Number) :
      session.reads + readsOf (session.evaluate id arguments).events =
        (session.evaluate id arguments).engine.formulas.size := by
    have computed :
        session.reads +
            readsOf
              (session.engine.compute session.source id arguments).events =
          (session.engine.compute session.source id
            arguments).engine.formulas.size := by
      rw [Engine.compute]
      split
      · exact formulas id
      · exact formulas id
    rw [evaluate, Engine.evaluate]
    split
    · split
      · exact counted
      · exact computed
    · exact computed
  cases request with
  | evaluate id arguments => exact evaluation id arguments
  | evaluateTexts id arguments =>
      exact evaluation id (arguments.map Number.ofString)
  | formula id => exact formulas id
  | replaceSink => exact counted
  | redefine changed => exact counted

theorem reads_run
    {session : Session}
    (counted : session.reads = session.engine.formulas.size)
    (requests : List Request) :
    (session.run requests).reads =
      (session.run requests).engine.formulas.size := by
  induction requests generalizing session with
  | nil => exact counted
  | cons request requests hypothesis => exact hypothesis (reads_after counted request)

end Session

/-- Sinks are numbered in the order of their installation. -/
theorem le_sinkBehind
    (sink : Nat)
    (requests : List Session.Request) :
    sink ≤ sinkBehind sink requests := by
  induction requests generalizing sink with
  | nil => exact Nat.le_refl sink
  | cons request requests hypothesis =>
      apply Nat.le_trans _ (hypothesis (request.sinkAfter sink))
      cases request with
      | replaceSink => exact Nat.le_succ sink
      | evaluate id arguments => exact Nat.le_refl sink
      | evaluateTexts id arguments => exact Nat.le_refl sink
      | formula id => exact Nat.le_refl sink
      | redefine changed => exact Nat.le_refl sink

namespace Session

/-- A request that leaves the sink in place adds its messages to it. -/
theorem messages_after
    (session : Session)
    {request : Request}
    {sink : Nat}
    (stays : request.sinkAfter sink = sink)
    (target : Nat) :
    (session.after request).messages =
        session.messages ++ messagesOf (session.events request) ∧
      messagesTo target (session.occurrencesOf sink request) =
        if sink == target then messagesOf (session.events request) else [] := by
  cases request with
  | evaluate id arguments => exact ⟨rfl, messagesTo_map sink id _ target⟩
  | evaluateTexts id arguments => exact ⟨rfl, messagesTo_map sink id _ target⟩
  | formula id => exact ⟨rfl, messagesTo_map sink id _ target⟩
  | replaceSink => exact absurd stays (Nat.succ_ne_self sink)
  | redefine changed =>
      constructor
      · exact (List.append_nil _).symm
      · exact (ite_self []).symm

/-- The sink that is installed behind a run holds the messages that were reported to it. -/
theorem messages_run
    (session : Session)
    (sink : Nat)
    (requests : List Request) :
    (session.run requests).messages =
      (if sinkBehind sink requests = sink then session.messages else []) ++
        messagesTo (sinkBehind sink requests)
          (session.occurrences sink requests) := by
  induction requests generalizing session sink with
  | nil =>
      have here : sinkBehind sink [] = sink := rfl
      rw [here, if_pos rfl]
      exact (List.append_nil _).symm
  | cons request requests hypothesis =>
      have step := hypothesis (session.after request) (request.sinkAfter sink)
      have ran :
          session.run (request :: requests) =
            (session.after request).run requests :=
        rfl
      have reached :
          sinkBehind sink (request :: requests) =
            sinkBehind (request.sinkAfter sink) requests :=
        rfl
      rw [ran, step, reached, occurrences, messagesTo_append,
        ← List.append_assoc]
      congr 1
      by_cases stays : request.sinkAfter sink = sink
      · rw [stays]
        rcases
            session.messages_after stays (sinkBehind sink requests) with
          ⟨delivered, marked⟩
        rw [delivered, marked]
        by_cases last : sinkBehind sink requests = sink
        · simp [last]
        · have differ : (sink == sinkBehind sink requests) = false :=
            beq_false_of_ne (Ne.symm last)
          simp [last, differ]
      · cases request with
        | replaceSink =>
            have above := le_sinkBehind (sink + 1) requests
            have moved :
                sinkBehind (Request.replaceSink.sinkAfter sink) requests ≠
                  sink :=
              Nat.ne_of_gt above
            rw [if_neg moved]
            show (if _ then [] else []) = [] ++ []
            rw [ite_self, List.append_nil]
        | evaluate id arguments => exact absurd rfl stays
        | evaluateTexts id arguments => exact absurd rfl stays
        | formula id => exact absurd rfl stays
        | redefine changed => exact absurd rfl stays

end Session

/--
In every run from a fresh engine the definition of a formula is read once if
the formula was asked for, and never otherwise, so there are as many reads as
formulas that are kept.  All that is reported about a formula is the fault of
the definition at the first request for it, if it has one, to the sink that is
installed at that request.  The messages of the last sink are those that were
reported to it.
-/
theorem run_reads_and_reports
    (options : EngineOptions)
    (source : Source)
    (requests : List Session.Request) :
    let session := (Session.start source options).run requests
    let occurrences := (Session.start source options).occurrences 0 requests
    (∀ id,
      readsFor id occurrences = if isAccessed id requests then 1 else 0) ∧
      session.reads = session.engine.formulas.size ∧
      (∀ id,
        reportsFor id occurrences =
          if isAccessed id requests then
            ((sourceAtFirst id source requests).fault?
              options.precedence id).toList.map
                (sinkAtFirst id 0 requests, ·)
          else
            []) ∧
      session.messages = messagesTo (sinkBehind 0 requests) occurrences := by
  have coherent := Coherent.start options source
  refine ⟨?_, ?_, ?_, ?_⟩
  · intro id
    exact coherent.readsFor_occurrences 0 requests id
  · exact Session.reads_run rfl requests
  · intro id
    exact coherent.reportsFor_occurrences 0 requests id
  · have delivered :=
      (Session.start source options).messages_run 0 requests
    have empty : (Session.start source options).messages = [] := rfl
    rw [empty, ite_self, List.nil_append] at delivered
    exact delivered

end Formulary
