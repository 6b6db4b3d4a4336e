import Intake.Attempt.Memory
import Intake.Proofs.Attempt.Stages

/-! The order in which an attempt calls its store. Whatever the store answers, the attempt is
recorded first; the rules are asked for, the header and the lines are stored, each call only if the
ones before it gave what they were made for; and the attempt is recorded once more at the end. The
attempt counts as a success exactly if all of this went well. -/

namespace Intake

variable {σ : Type}

namespace Exchange

/-- What a call is about, the data that goes with it left aside. -/
inductive Ask where
  | record (status : Status)
  | rules (table : String)
  | saveHeader
  | saveLines
  deriving DecidableEq, Repr

/-- What the call of an exchange is about. -/
def ask : Exchange → Ask
  | record outcome _ => .record outcome.status
  | rules _ table _ => .rules table
  | saveHeader _ _ => .saveHeader
  | saveLines _ _ => .saveLines

/-- Whether the call of an exchange gave what it was made for: rules are answered with a list, and a
header comes back with its identity. -/
def succeeded : Exchange → Bool
  | record _ answer => answer.isOk
  | rules _ _ answer => answer.toOption.join.isSome
  | saveHeader _ answer => (answer.toOption.join.bind Record.id?).isSome
  | saveLines _ answer => answer.isOk

end Exchange

/-- The calls before a plan is known, in their order. -/
def Task.planning (t : Task) : List Exchange.Ask :=
  [.record .processing, .rules t.kind.headerType.table, .rules t.kind.lineType.table]

/-- The calls of an attempt before the one that records its end, in their order. -/
def Task.opening (t : Task) : List Exchange.Ask := t.planning ++ [.saveHeader, .saveLines]

namespace Attempt

section Steps

variable {t : Task} {o : Outcome} {plan : Plan} {trail trail' : Trail} {id : Nat}
  {es : List Exchange}

theorem Resolution.asks {result : Except Abort Plan} (h : Resolution t es result) :
    es.map Exchange.ask <+:
      [.rules t.kind.headerType.table, .rules t.kind.lineType.table] := by
  cases h <;> simp [Exchange.ask]

/-- A plan takes the answers to all calls before it. -/
theorem Resolution.planned_asks (h : Resolution t es (.ok plan)) :
    es.map Exchange.ask = [.rules t.kind.headerType.table, .rules t.kind.lineType.table] ∧
      ∀ e ∈ es, e.succeeded := by
  cases h with
  | planned headerRules lineRules => simp [Exchange.ask, Exchange.succeeded, Except.toOption]

theorem Resolution.mem_rules {result : Except Abort Plan} (h : Resolution t es result) :
    ∀ e ∈ es, ∃ interfaceId table answer, e = .rules interfaceId table answer := by
  cases h <;> simp

theorem Prelude.asks {result : Except Abort Plan} (h : Prelude t o es result)
    (hStatus : o.status = .processing) : es.map Exchange.ask <+: t.planning := by
  cases h with
  | unrecorded reason => simp [Exchange.ask, Task.planning, hStatus]
  | recorded answer hResolution =>
    simpa [Exchange.ask, Task.planning, hStatus] using hResolution.asks

theorem Prelude.planned_asks (h : Prelude t o es (.ok plan)) (hStatus : o.status = .processing) :
    es.map Exchange.ask = t.planning ∧ ∀ e ∈ es, e.succeeded := by
  cases h with
  | recorded answer hResolution =>
    obtain ⟨hAsks, hSucceeded⟩ := hResolution.planned_asks
    refine ⟨by simp [Exchange.ask, Task.planning, hStatus, hAsks], ?_⟩
    rintro e (_ | ⟨_, hMem⟩)
    · rfl
    · exact hSucceeded e hMem

theorem Prelude.ne_nil {result : Except Abort Plan} (h : Prelude t o es result) : es ≠ [] := by
  cases h <;> simp

/-- No lines are stored before a plan is known. -/
theorem Prelude.saveLines_notMem {result : Except Abort Plan} (h : Prelude t o es result)
    (lines : List Record) (answer : Except String Unit) : .saveLines lines answer ∉ es := by
  intro hMem
  cases h with
  | unrecorded reason => simp at hMem
  | recorded recorded hResolution =>
    obtain ⟨_, _, _, hRules⟩ := hResolution.mem_rules _ (by simpa using hMem)
    cases hRules

theorem savedHeader_eq_ok {answer : Except String (Option Record)} {saved : Record}
    (h : savedHeader answer = .ok saved) :
    answer = .ok (some saved) ∧ saved.id?.isSome := by
  match answer, h with
  | .ok (some header), h =>
    rw [savedHeader] at h
    split at h
    · rename_i hId
      cases h
      exact ⟨rfl, hId⟩
    · cases h

theorem keptLines_eq_ok {x : Except Binding.Failure Unit × Mapping.Tally} {lines : List Record}
    (h : keptLines x = .ok lines) :
    x.1 = .ok () ∧ x.2.lines = lines ∧ (lines = [] → x.2.failed = 0) := by
  obtain ⟨failure | done, tally⟩ := x
  · cases h
  · rw [keptLines] at h
    split at h
    · cases h
    · rename_i hSome
      cases h
      exact ⟨rfl, rfl, fun hNil => by simpa [hNil] using hSome⟩

/-- A header that came back with its identity. -/
theorem savedHeader_succeeded {answer : Except String (Option Record)} {saved : Record}
    (h : savedHeader answer = .ok saved) (header : Record) :
    (Exchange.saveHeader header answer).succeeded := by
  obtain ⟨rfl, hId⟩ := savedHeader_eq_ok h
  simpa [Exchange.succeeded, Except.toOption] using hId

theorem Completion.asks {result : Except Abort Unit}
    (h : Completion t plan trail id es result trail') :
    es.map Exchange.ask <+: [.saveHeader, .saveLines] := by
  cases h <;> simp [Exchange.ask]

/-- Lines are stored only if there are some, and once a header came back with its identity. -/
theorem Completion.saveLines_mem {result : Except Abort Unit}
    (h : Completion t plan trail id es result trail') {lines : List Record}
    {answer : Except String Unit} (hMem : .saveLines lines answer ∈ es) :
    lines ≠ [] ∧ ∃ header saved, .saveHeader header (.ok (some saved)) ∈ es ∧ saved.id?.isSome := by
  cases h with
  | linesSaved answer' hBound hSaved hKept hLines =>
    obtain ⟨rfl, hId⟩ := savedHeader_eq_ok hSaved
    obtain ⟨rfl, rfl⟩ : _ = lines ∧ _ = answer := by simpa [eq_comm] using hMem
    exact ⟨hLines, _, _, List.mem_cons_self, hId⟩
  | _ => simp at hMem

theorem Completion.succeeded (h : Completion t plan trail id es (.ok ()) trail') :
    ∀ e ∈ es, e.succeeded := by
  generalize hResult : (.ok () : Except Abort Unit) = result at h
  cases h with
  | @noLines header saved trail' answer hBound hSaved hKept =>
    simpa using savedHeader_succeeded hSaved header
  | @linesSaved header saved trail' answer lines answer' hBound hSaved hKept hLines =>
    cases answer' with
    | error reason => cases hResult
    | ok done =>
      have hHeader := savedHeader_succeeded hSaved header
      simpa [Exchange.succeeded, Except.isOk, Except.toBool] using hHeader
  | _ => cases hResult

/-- How the rules of a plan come in with the exchanges before it. -/
theorem Prelude.planned_rules (h : Prelude t o es (.ok plan)) :
    ∃ headerRules lineRules, plan = (Plan.ofRules headerRules lineRules).value ∧
      .rules t.interfaceId t.kind.headerType.table (.ok (some headerRules)) ∈ es ∧
      .rules t.interfaceId t.kind.lineType.table (.ok (some lineRules)) ∈ es := by
  cases h with
  | recorded answer hResolution =>
    cases hResolution with
    | planned headerRules lineRules => exact ⟨headerRules, lineRules, rfl, by simp, by simp⟩

/-- The rules that the store answered with give no line to go with the stored header. -/
def LeavesNoLines (t : Task) (trail : Trail) (id : Nat) (es : List Exchange) : Prop :=
  ∃ headerRules lineRules plan header saved trail',
    .rules t.interfaceId t.kind.headerType.table (.ok (some headerRules)) ∈ es ∧
    .rules t.interfaceId t.kind.lineType.table (.ok (some lineRules)) ∈ es ∧
    .saveHeader header (.ok (some saved)) ∈ es ∧
    plan = (Plan.ofRules headerRules lineRules).value ∧
    boundHeader t trail id plan.headerRules = (.ok header, trail') ∧
    keptLines (boundLines t trail' (id + 1) saved plan.groups) = .ok []

theorem Mapped.ne_nil {result : Except Abort Unit} (h : Mapped t o trail id es result trail') :
    es ≠ [] := by
  cases h with
  | unplanned hPrelude => exact hPrelude.ne_nil
  | planned hPrelude hCompletion => simp [hPrelude.ne_nil]

theorem Mapped.asks {result : Except Abort Unit} (h : Mapped t o trail id es result trail')
    (hStatus : o.status = .processing) : es.map Exchange.ask <+: t.opening := by
  cases h with
  | unplanned hPrelude => exact (hPrelude.asks hStatus).trans (List.prefix_append _ _)
  | planned hPrelude hCompletion =>
    rw [List.map_append, (hPrelude.planned_asks hStatus).1]
    exact (List.prefix_append_right_inj _).mpr hCompletion.asks

theorem Mapped.saveLines_mem {result : Except Abort Unit}
    (h : Mapped t o trail id es result trail') {lines : List Record} {answer : Except String Unit}
    (hMem : .saveLines lines answer ∈ es) :
    lines ≠ [] ∧ ∃ header saved, .saveHeader header (.ok (some saved)) ∈ es ∧ saved.id?.isSome := by
  cases h with
  | unplanned hPrelude => exact absurd hMem (hPrelude.saveLines_notMem lines answer)
  | planned hPrelude hCompletion =>
    rcases List.mem_append.mp hMem with hMem | hMem
    · exact absurd hMem (hPrelude.saveLines_notMem lines answer)
    · obtain ⟨hLines, header, saved, hHeader, hId⟩ := hCompletion.saveLines_mem hMem
      exact ⟨hLines, header, saved, List.mem_append_right _ hHeader, hId⟩

theorem Mapped.succeeded (h : Mapped t o trail id es (.ok ()) trail')
    (hStatus : o.status = .processing) : ∀ e ∈ es, e.succeeded := by
  cases h with
  | planned hPrelude hCompletion =>
    intro e hMem
    rcases List.mem_append.mp hMem with hMem | hMem
    · exact (hPrelude.planned_asks hStatus).2 e hMem
    · exact hCompletion.succeeded e hMem

/-- A mapping that ends well stores the lines unless there are none. -/
theorem Mapped.saveLines_or (h : Mapped t o trail id es (.ok ()) trail') :
    (∃ lines answer, .saveLines lines answer ∈ es) ∨ LeavesNoLines t trail id es := by
  generalize hResult : (.ok () : Except Abort Unit) = result at h
  cases h with
  | unplanned hPrelude => cases hResult
  | @planned plan es es' result trail' hPrelude hCompletion =>
    obtain ⟨headerRules, lineRules, hPlan, hHeaderRules, hLineRules⟩ := hPrelude.planned_rules
    cases hCompletion with
    | @noLines header saved trail' answer hBound hSaved hKept =>
      obtain ⟨rfl, hId⟩ := savedHeader_eq_ok hSaved
      exact .inr ⟨headerRules, lineRules, plan, header, saved, trail',
        List.mem_append_left _ hHeaderRules, List.mem_append_left _ hLineRules, by simp, hPlan,
        hBound, hKept⟩
    | @linesSaved header saved trail' answer lines answer' hBound hSaved hKept hLines =>
      exact .inl ⟨lines, answer', by simp⟩
    | _ => cases hResult

end Steps

/-- The exchanges of an attempt with its store, in their order. -/
def exchanges (repo : Repository σ) (t : Task) (store : σ) (nextId : Nat) (log : List Log.Entry) :
    List Exchange :=
  (run repo.traced t ⟨store, []⟩ nextId log).store.exchanges

/-- Why the mapping of the document was given up, if it was. -/
def abort? (repo : Repository σ) (t : Task) (store : σ) (nextId : Nat) (log : List Log.Entry) :
    Option Abort :=
  match (exec (map repo t) ((start t store nextId log).announced t)).1 with
  | .ok () => none
  | .error abort => some abort

/-- What the exchanges of an attempt keep to. The calls before the last one come in the order of
`Task.opening`; lines are stored only if there are some, and once a header came back with its
identity, and are left out at the end only if there are none. The last call, and no other, records
the end of the attempt, which is a success exactly if all of this went well. -/
structure Protocol (t : Task) (nextId : Nat) (abort? : Option Abort) (status : Status)
    (before : List Exchange) (closing : Outcome) (answer : Except String (Option Outcome)) :
    Prop where
  opened : before ≠ []
  asks : before.map Exchange.ask <+: t.opening
  lines : ∀ lines answer, .saveLines lines answer ∈ before →
    lines ≠ [] ∧ ∃ header saved, .saveHeader header (.ok (some saved)) ∈ before ∧ saved.id?.isSome
  skipped : abort? = none → (∃ lines answer, .saveLines lines answer ∈ before) ∨
    LeavesNoLines t ⟨t.settings.trailLength, []⟩ (nextId + 1) before
  ended : closing.status = .success ∨ closing.status = .error
  returned : status = .success ∨ status = .error
  success : status = .success ↔ (∀ e ∈ before, e.succeeded) ∧ abort? = none ∧
    closing.status = .success ∧ answer.isOk

/-- How an attempt ends: the exchanges while the document is mapped, what the mapping comes to and the
trail that it leaves, the state that is recorded at the end, and how the store answers then. -/
structure Ended (repo : Repository σ) (t : Task) (store : σ) (nextId : Nat) (log : List Log.Entry)
    (before : List Exchange) (result : Except Abort Unit) (trail : Trail)
    (last : Attempt (Traced σ)) (answer : Except String (Option Outcome)) : Prop where
  made : exchanges repo t store nextId log =
    before ++ [.record (settle t (closingStatus result) last).outcome answer]
  mapped : Mapped t (t.outcome nextId) ⟨t.settings.trailLength, []⟩ (nextId + 1) before result trail
  mapping : (exec (map repo t) ((start t store nextId log).announced t)).1 = result
  closed : last.trail = closingTrail trail result
  counted : nextId < (run repo t store nextId log).nextId
  given : ∀ header answer, .saveHeader header answer ∈ before →
    nextId + 1 < (run repo t store nextId log).nextId
  opened : repo.KeepsOutcomes →
    ∃ headerId lineCount, last.outcome = { t.outcome nextId with headerId, lineCount }
  recorded : repo.KeepsOutcomes → result = .ok () →
    (Progress.opening.afterAll before).RecordedBy last.outcome
  reply : repo.KeepsOutcomes →
    (run repo t store nextId log).outcome = returned t (closingStatus result) last answer

theorem run_ended (repo : Repository σ) (t : Task) (store : σ) (nextId : Nat)
    (log : List Log.Entry) :
    ∃ before result trail last answer,
      Ended repo t store nextId log before result trail last answer := by
  have hRun := run_refines repo.traced_refines t ⟨store, []⟩ nextId log
  have hMapRun := congrArg Prod.fst
    (map_agrees repo.traced_refines t ((start t ⟨store, []⟩ nextId log).announced t))
  obtain ⟨before, result, a, hMap, hMapped, hBefore, hNext, hGiven, hKept⟩ :=
    exec_map_mapped repo t ((start t ⟨store, []⟩ nextId log).announced t)
  rw [hMap] at hMapRun
  obtain ⟨last, answer, c, hCourse, hOutcome, hTrail, hExchanges, hId, hReturned⟩ :=
    exec_course_traced hMap
  have hState : run repo.traced t ⟨store, []⟩ nextId log = c := congrArg Prod.snd hCourse
  have hLastId : (run repo t store nextId log).nextId = a.nextId := by
    rw [hRun, hState]
    exact hId
  refine ⟨before, result, a.trail, last, answer, ?_⟩
  constructor
  case made =>
    rw [exchanges, hState, hExchanges, hBefore]
    rfl
  case mapped => exact hMapped
  case mapping => exact hMapRun
  case closed => exact hTrail
  case counted =>
    rw [hLastId]
    exact hNext
  case given =>
    rw [hLastId]
    exact hGiven
  case opened =>
    intro keeps
    rw [hOutcome]
    exact (hKept keeps).1
  case recorded =>
    intro keeps hOk
    rw [hOutcome]
    exact (hKept keeps).2 hOk rfl
  case reply =>
    intro keeps
    rw [hRun, hState]
    exact hReturned keeps

/-- The exchanges of an attempt: those while the document is mapped, and the call that records what
came of it. -/
theorem run_traced (repo : Repository σ) (t : Task) (store : σ) (nextId : Nat)
    (log : List Log.Entry) :
    ∃ before result trail closing answer,
      exchanges repo t store nextId log = before ++ [.record closing answer] ∧
      Mapped t (t.outcome nextId) ⟨t.settings.trailLength, []⟩ (nextId + 1) before result trail ∧
      (exec (map repo t) ((start t store nextId log).announced t)).1 = result ∧
      closing.status = closingStatus result ∧
      closing.message = (closingTrail trail result).render ∧
      (repo.KeepsOutcomes → (run repo t store nextId log).outcome.status =
        match answer with
        | .ok _ => closingStatus result
        | .error _ => .error) := by
  obtain ⟨before, result, trail, last, answer, hEnded⟩ := run_ended repo t store nextId log
  refine ⟨before, result, trail, (settle t (closingStatus result) last).outcome, answer,
    hEnded.made, hEnded.mapped, hEnded.mapping, rfl, congrArg Trail.render hEnded.closed,
    fun keeps => ?_⟩
  rw [hEnded.reply keeps]
  exact status_returned t (closingStatus result) last answer

/-- An attempt never raises, and its calls keep to the protocol, whatever the store answers. -/
theorem course_protocol {repo : Repository σ} (t : Task) (store : σ) (nextId : Nat)
    (log : List Log.Entry) (keeps : repo.KeepsOutcomes) :
    (exec (course repo t) (start t store nextId log)).1 = .ok () ∧
      ∃ before closing answer,
        exchanges repo t store nextId log = before ++ [.record closing answer] ∧
        Protocol t nextId (abort? repo t store nextId log)
          (run repo t store nextId log).outcome.status before closing answer := by
  constructor
  · obtain ⟨b, hCourse, -⟩ := exec_course repo t (start t store nextId log)
    obtain ⟨c, hFinish⟩ := exec_finish_ok repo t
      (closingStatus (exec (map repo t) ((start t store nextId log).announced t)).1) b
    rw [hCourse, hFinish]
  · obtain ⟨before, result, trail, closing, answer, hExchanges, hMapped, hResult, hClosing, -,
      hStatus⟩ := run_traced repo t store nextId log
    have hAbort : abort? repo t store nextId log = none ↔ result = .ok () := by
      rw [abort?, hResult]
      cases result <;> simp
    have hEnd : closingStatus result = .success ↔ result = .ok () := by
      cases result <;> simp [closingStatus]
    refine ⟨before, closing, answer, hExchanges, ?_⟩
    constructor
    case opened => exact hMapped.ne_nil
    case asks => exact hMapped.asks rfl
    case lines => exact fun lines answer hMem => hMapped.saveLines_mem hMem
    case skipped =>
      intro hNone
      rw [hAbort.mp hNone] at hMapped
      exact hMapped.saveLines_or
    case ended =>
      rw [hClosing]
      cases result <;> simp [closingStatus]
    case returned =>
      rw [hStatus keeps]
      cases answer <;> cases result <;> simp [closingStatus]
    case success =>
      rw [hStatus keeps, hClosing, hAbort, hEnd]
      cases answer with
      | error reason => simp [Except.isOk, Except.toBool]
      | ok recorded =>
        rw [hEnd]
        constructor
        · rintro rfl
          exact ⟨hMapped.succeeded rfl, rfl, rfl, rfl⟩
        · exact fun h => h.2.1

end Attempt

/-- The store in memory keeps the record of an attempt as it is given, whatever befalls it. -/
theorem Memory.repository_keepsOutcomes (troubles : Troubles) :
    (Memory.repository troubles).KeepsOutcomes := by
  intro o m kept m' hAnswer
  rcases hMet : m.meet troubles .record (some o.status.tag) with ⟨trouble, met⟩
  simp only [Memory.repository, hMet] at hAnswer
  rcases trouble with _ | ⟨_ | _ | _⟩ <;> simp_all [pure]

/-- An order of which there is nothing but its element, and a store whose headers come back without
their identity: no lines are stored, and the attempt ends as a failure. -/
theorem Attempt.course_protocol_anonymous :
    let repo := Memory.repository fun call _ _ =>
      if call = .saveHeader then some .noIdentity else none
    let t : Task := {
      kind := .order, settings := {}, now := default,
      document := .ofParts ⟨[], ⟨⟨none, none, "Order"⟩, [], []⟩, [], []⟩ }
    repo.KeepsOutcomes ∧ (exec (course repo t) (start t {} 1 [])).1 = .ok () ∧
      (∃ before closing answer,
        exchanges repo t {} 1 [] = before ++ [.record closing answer] ∧
        Protocol t 1 (abort? repo t {} 1 []) (run repo t {} 1 []).outcome.status before closing
          answer) ∧
      (exchanges repo t {} 1 []).map Exchange.ask =
        t.opening.take 4 ++ [.record .error] := by
  intro repo t
  have keeps : repo.KeepsOutcomes := Memory.repository_keepsOutcomes _
  obtain ⟨hEnds, hProtocol⟩ := course_protocol t {} 1 [] keeps
  exact ⟨keeps, hEnds, hProtocol, by decide +kernel⟩

end Intake
