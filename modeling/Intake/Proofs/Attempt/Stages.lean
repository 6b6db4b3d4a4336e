import Intake.Proofs.Attempt.Progress
import Intake.Proofs.Mapping.Turns
import Intake.Proofs.Results

/-! What the stages of an attempt with a traced store can do: the exchanges that a stage adds, and
the result and the state that it leaves, whatever the store answers. -/

namespace Intake

variable {σ α : Type}

/-- Whether a store that answers with the record of an attempt answers with what it was given. -/
def Repository.KeepsOutcomes (repo : Repository σ) : Prop :=
  ∀ o s kept s', (repo.record o s).value = (.ok (some kept), s') → kept = o

namespace Attempt

/-- The state after more exchanges, which leave the store in state `s`. -/
def answered (a : Attempt (Traced σ)) (es : List Exchange) (s : σ) (log : List Log.Entry) :
    Attempt (Traced σ) :=
  { a with store := ⟨s, a.store.exchanges ++ es⟩, log }

section Answered

variable (a : Attempt (Traced σ)) (es : List Exchange) (s : σ) (log : List Log.Entry)

@[simp] theorem store_answered :
    (a.answered es s log).store = ⟨s, a.store.exchanges ++ es⟩ := rfl

@[simp] theorem outcome_answered : (a.answered es s log).outcome = a.outcome := rfl

@[simp] theorem trail_answered : (a.answered es s log).trail = a.trail := rfl

@[simp] theorem nextId_answered : (a.answered es s log).nextId = a.nextId := rfl

@[simp] theorem discovery_answered : (a.answered es s log).discovery = a.discovery := rfl

theorem answered_answered (es' : List Exchange) (s' : σ) (log' : List Log.Entry) :
    (a.answered es s log).answered es' s' log' = a.answered (es ++ es') s' log' := by
  simp [answered]

end Answered

/-- A call either gives its answer or ends the step with the reason that the store gives. -/
theorem exec_call_traced (name : Call) (g : σ → Logged (Except String α × σ))
    (exchange : Except String α → Exchange) (a : Attempt (Traced σ)) :
    ∃ answer s log, (g a.store.store).value = (answer, s) ∧
      exec (call name fun s => (g s.store).traced s.exchanges exchange) a =
        (answer.mapError (Abort.store name), a.answered [exchange answer] s log) := by
  rcases hx : g a.store.store with ⟨⟨answer, s⟩, log⟩
  refine ⟨answer, s, a.log ++ log, rfl, ?_⟩
  simp only [call, exec_bind, exec_get, exec_logged, hx, Logged.traced]
  cases answer <;> rfl

variable {repo : Repository σ}

/-- Recording an attempt leaves its record as it is, or as the store would have it. -/
theorem exec_record (repo : Repository σ) (a : Attempt (Traced σ)) :
    ∃ answer s log o, (repo.KeepsOutcomes → o = a.outcome) ∧
      exec (record repo.traced) a =
        ((answer.mapError (Abort.store .record)).map fun _ => (),
          { a with outcome := o }.answered [.record a.outcome answer] s log) := by
  obtain ⟨answer, s, log, hCall, hExec⟩ :=
    exec_call_traced .record (repo.record a.outcome) (.record a.outcome) a
  rw [record, exec_bind_ok (exec_get a), exec_bind]
  simp only [Repository.traced, hExec]
  cases answer with
  | error reason => exact ⟨.error reason, s, log, a.outcome, fun _ => rfl, rfl⟩
  | ok recorded =>
    refine ⟨.ok recorded, s, log, recorded.getD a.outcome, fun keeps => ?_, rfl⟩
    cases recorded with
    | none => rfl
    | some kept => exact keeps _ _ _ _ hCall

/-- How the store answers when it is asked for the rules, and the plan or the abort that this
leads to. -/
inductive Resolution (t : Task) : List Exchange → Except Abort Plan → Prop
  | noHeaderRules (reason : String) :
      Resolution t [.rules t.interfaceId t.kind.headerType.table (.error reason)]
        (.error (.store .rules reason))
  | noLineRules (headerRules : Option (List Rule)) (reason : String) :
      Resolution t
        [.rules t.interfaceId t.kind.headerType.table (.ok headerRules),
          .rules t.interfaceId t.kind.lineType.table (.error reason)]
        (.error (.store .rules reason))
  | noAnswer (headerRules lineRules : Option (List Rule)) (fault : Fault) :
      (headerRules = none ∨ lineRules = none) →
      Resolution t
        [.rules t.interfaceId t.kind.headerType.table (.ok headerRules),
          .rules t.interfaceId t.kind.lineType.table (.ok lineRules)]
        (.error (.fault fault))
  | planned (headerRules lineRules : List Rule) :
      Resolution t
        [.rules t.interfaceId t.kind.headerType.table (.ok (some headerRules)),
          .rules t.interfaceId t.kind.lineType.table (.ok (some lineRules))]
        (.ok (Plan.ofRules headerRules lineRules).value)

theorem exec_resolve (repo : Repository σ) (t : Task) (a : Attempt (Traced σ)) :
    ∃ result es s log, Resolution t es result ∧
      exec (resolve repo.traced t) a = (result, a.answered es s log) := by
  obtain ⟨headers, s, log, -, hHeaders⟩ :=
    exec_call_traced .rules (repo.rules t.interfaceId t.kind.headerType.table)
      (.rules t.interfaceId t.kind.headerType.table) a
  cases headers with
  | error reason => exact ⟨_, _, s, log, .noHeaderRules reason, exec_bind_error hHeaders⟩
  | ok headerRules =>
    obtain ⟨lines, s, log, -, hLines⟩ :=
      exec_call_traced .rules (repo.rules t.interfaceId t.kind.lineType.table)
        (.rules t.interfaceId t.kind.lineType.table) (a.answered _ s log)
    rw [answered_answered] at hLines
    cases lines with
    | error reason =>
      exact ⟨_, _, s, log, .noLineRules headerRules reason,
        (exec_bind_ok hHeaders).trans (exec_bind_error hLines)⟩
    | ok lineRules =>
      match headerRules, lineRules with
      | headerRules, none =>
        exact ⟨_, _, s, _, .noAnswer headerRules none _ (.inr rfl),
          (exec_bind_ok hHeaders).trans ((exec_bind_ok hLines).trans rfl)⟩
      | none, some lineRules =>
        exact ⟨_, _, s, _, .noAnswer none (some lineRules) _ (.inl rfl),
          (exec_bind_ok hHeaders).trans ((exec_bind_ok hLines).trans rfl)⟩
      | some headerRules, some lineRules =>
        exact ⟨_, _, s, _, .planned headerRules lineRules,
          (exec_bind_ok hHeaders).trans ((exec_bind_ok hLines).trans rfl)⟩

/-- The mapping of a document once its plan is known. -/
def mapBy (repo : Repository σ) (t : Task) (plan : Plan) : Step σ Unit := do
  let header ← bindHeader t plan.headerRules
  advance .headerBound
  let header ← saveHeader repo header
  advance .headerSaved
  let lines ← bindLines t header plan.groups
  advance .linesBound
  saveLines repo t lines
  advance .linesSaved

/-- The exchanges before a plan is known, the attempt being recorded as `o`, and the plan or the
abort that they lead to. -/
inductive Prelude (t : Task) (o : Outcome) : List Exchange → Except Abort Plan → Prop
  | unrecorded (reason : String) :
      Prelude t o [.record o (.error reason)] (.error (.store .record reason))
  | recorded (answer : Option Outcome) {es : List Exchange} {result : Except Abort Plan} :
      Resolution t es result → Prelude t o (.record o (.ok answer) :: es) result

/-- No header is handed over before a plan is known. -/
theorem Prelude.saveHeader_notMem {t : Task} {o : Outcome} {es : List Exchange}
    {result : Except Abort Plan} (h : Prelude t o es result) (header : Record)
    (answer : Except String (Option Record)) : .saveHeader header answer ∉ es := by
  cases h with
  | unrecorded reason => simp
  | recorded answer hResolution => cases hResolution <;> simp

theorem Prelude.afterAll {t : Task} {o : Outcome} {es : List Exchange}
    {result : Except Abort Plan} (h : Prelude t o es result) :
    Progress.opening.afterAll es = .opening := by
  cases h with
  | unrecorded reason => rfl
  | recorded answer hResolution => cases hResolution <;> rfl

theorem exec_map (repo : Repository σ) (t : Task) (a : Attempt (Traced σ)) :
    ∃ es result s log o, (repo.KeepsOutcomes → o = a.outcome) ∧ Prelude t a.outcome es result ∧
      exec (map repo.traced t) a =
        match result with
        | .ok plan => exec (mapBy repo.traced t plan) ({ a with outcome := o }.answered es s log)
        | .error abort => (.error abort, { a with outcome := o }.answered es s log) := by
  obtain ⟨answer, s, log, o, hKept, hRecord⟩ := exec_record repo a
  cases answer with
  | error reason => exact ⟨_, _, s, log, o, hKept, .unrecorded reason, exec_bind_error hRecord⟩
  | ok recorded =>
    obtain ⟨result, es, s', log', hResolution, hResolve⟩ := exec_resolve repo t
      ({ a with outcome := o }.answered [.record a.outcome (.ok recorded)] s log)
    rw [answered_answered] at hResolve
    refine ⟨_, result, s', log', o, hKept, .recorded recorded hResolution, ?_⟩
    refine (exec_bind_ok hRecord).trans ?_
    cases result with
    | error abort => exact exec_bind_error hResolve
    | ok plan => exact exec_bind_ok hResolve

/-- What the header rules come to, and the trail with what they leave in it. -/
def boundHeader (t : Task) (trail : Trail) (id : Nat) (rules : List Rule) :
    Except Mapping.HeaderFailure Record × Trail :=
  (Mapping.bindHeader t.scene t.checks t.start trail
    (Record.freshHeader t.settings t.now t.kind id t.clientId) rules).value

theorem exec_bindHeader (t : Task) (rules : List Rule) (a : Attempt σ) :
    ∃ log, exec (bindHeader t rules) a =
      ((boundHeader t a.trail a.nextId rules).1.mapError Abort.ofHeader,
        { a with
          trail := (boundHeader t a.trail a.nextId rules).2
          nextId := a.nextId + 1
          log }) := by
  refine ⟨a.log ++ (Mapping.bindHeader t.scene t.checks t.start a.trail
    (Record.freshHeader t.settings t.now t.kind a.nextId t.clientId) rules).log, ?_⟩
  rw [bindHeader, exec_bind_ok (exec_get a), exec_bind_ok (exec_logged _ a)]
  rcases hBound : boundHeader t a.trail a.nextId rules with ⟨_ | _, _⟩ <;>
    · unfold boundHeader at hBound
      rw [hBound]
      rfl

/-- The header that a store gives back, provided that it comes with an identity. -/
def savedHeader : Except String (Option Record) → Except Abort Record
  | .error reason => .error (.store .saveHeader reason)
  | .ok none => .error .noIdentity
  | .ok (some header) => if header.id?.isSome then .ok header else .error .noIdentity

theorem after_saveHeader {answer : Except String (Option Record)} {saved : Record}
    (h : savedHeader answer = .ok saved) (header : Record) :
    Progress.opening.after (.saveHeader header answer) = .headed saved 0 := by
  match answer, h with
  | .ok (some kept), h =>
    rw [savedHeader] at h
    split at h
    · rename_i hId
      cases h
      exact if_pos hId
    · cases h

theorem exec_saveHeader (repo : Repository σ) (header : Record) (a : Attempt (Traced σ)) :
    ∃ answer s log headerId, (repo.saveHeader header a.store.store).value = (answer, s) ∧
      (∀ saved, savedHeader answer = .ok saved → headerId = saved.id?) ∧
      exec (saveHeader repo.traced header) a =
        (savedHeader answer,
          { a.answered [.saveHeader header answer] s log with
            outcome := { a.outcome with headerId } }) := by
  obtain ⟨answer, s, log, hCall, hExec⟩ :=
    exec_call_traced .saveHeader (repo.saveHeader header) (.saveHeader header) a
  match answer, hExec with
  | .error reason, hExec =>
    exact ⟨_, s, log, a.outcome.headerId, hCall, nofun, exec_bind_error hExec⟩
  | .ok none, hExec =>
    exact ⟨_, s, log, a.outcome.headerId, hCall, nofun, (exec_bind_ok hExec).trans rfl⟩
  | .ok (some saved), hExec =>
    cases hId : saved.id? with
    | none =>
      refine ⟨_, s, log, a.outcome.headerId, hCall, by simp [savedHeader, hId], ?_⟩
      refine (exec_bind_ok hExec).trans ?_
      simp [hId, savedHeader]
      rfl
    | some id =>
      refine ⟨_, s, log ++ [⟨.attempts, .debug,
        "Persisted " ++ saved.type.name ++ " " ++ identifierText id, []⟩], some id, hCall,
        fun kept hKept => ?_, ?_⟩
      · have hSame : saved = kept := by simpa [savedHeader, hId] using hKept
        rw [← hSame, hId]
      · refine (exec_bind_ok hExec).trans ?_
        simp only [hId, savedHeader]
        rfl

/-- What the groups of line rules come to: whether they could be applied, and the tally. -/
def boundLines (t : Task) (trail : Trail) (id : Nat) (header : Record) (groups : List LineGroup) :
    Except Binding.Failure Unit × Mapping.Tally :=
  (Mapping.bindGroups t.scene t.checks t.start
    (fun id number => Record.freshLine t.settings t.now t.kind id header number t.clientId)
    { trail, nextId := id } groups).value

theorem boundLines_nextId_le (t : Task) (trail : Trail) (id : Nat) (header : Record)
    (groups : List LineGroup) : id ≤ (boundLines t trail id header groups).2.nextId :=
  (Mapping.keptByTurns_nextId id).bindGroups (Nat.le_refl id)

theorem boundLines_limit (t : Task) (trail : Trail) (id : Nat) (header : Record)
    (groups : List LineGroup) :
    (boundLines t trail id header groups).2.trail.limit = trail.limit :=
  (Mapping.keptByTurns_limit trail.limit).bindGroups rfl

/-- The lines that go on to the store. Lines that all failed end the attempt. -/
def keptLines : Except Binding.Failure Unit × Mapping.Tally → Except Abort (List Record)
  | (.error failure, _) => .error (.ofBinding failure)
  | (.ok (), tally) =>
    if tally.lines.isEmpty && tally.failed != 0 then .error (.noLines tally.failed)
    else .ok tally.lines

theorem exec_bindLines (t : Task) (header : Record) (groups : List LineGroup) (a : Attempt σ) :
    ∃ log, exec (bindLines t header groups) a =
      (keptLines (boundLines t a.trail a.nextId header groups),
        { a with
          trail := (boundLines t a.trail a.nextId header groups).2.trail
          nextId := (boundLines t a.trail a.nextId header groups).2.nextId
          discovery := (boundLines t a.trail a.nextId header groups).2.discovery
          log }) := by
  refine ⟨a.log ++ (Mapping.bindGroups t.scene t.checks t.start
    (fun id number => Record.freshLine t.settings t.now t.kind id header number t.clientId)
    { trail := a.trail, nextId := a.nextId } groups).log, ?_⟩
  rw [bindLines, exec_bind_ok (exec_get a), exec_bind_ok (exec_logged _ a)]
  rcases hBound : boundLines t a.trail a.nextId header groups with ⟨_ | _, tally⟩
  · unfold boundLines at hBound
    simp only [hBound]
    rfl
  · unfold boundLines at hBound
    simp only [hBound, keptLines]
    rw [exec_bind_ok (exec_modify _ _)]
    split <;> rfl

theorem exec_saveLines_nil (t : Task) (a : Attempt σ) (repo : Repository σ) :
    ∃ log, exec (saveLines repo t []) a = (.ok (), { a with log }) := ⟨_, rfl⟩

theorem exec_saveLines (repo : Repository σ) (t : Task) {lines : List Record} (hLines : lines ≠ [])
    (a : Attempt (Traced σ)) :
    ∃ answer s log lineCount, (repo.saveLines lines a.store.store).value = (answer, s) ∧
      (answer = .ok () → lineCount = lines.length) ∧
      exec (saveLines repo.traced t lines) a =
        (answer.mapError (Abort.store .saveLines),
          { a.answered [.saveLines lines answer] s log with
            outcome := { a.outcome with lineCount } }) := by
  obtain ⟨answer, s, log, hCall, hExec⟩ :=
    exec_call_traced .saveLines (repo.saveLines lines) (.saveLines lines) a
  have hSave : saveLines repo.traced t lines = (do
      call .saveLines (repo.traced.saveLines lines)
      modify fun a => { a with outcome := { a.outcome with lineCount := lines.length } }) := by
    rw [saveLines, if_neg (by simpa using hLines)]
  rw [hSave]
  cases answer with
  | error reason =>
    exact ⟨_, s, log, a.outcome.lineCount, hCall, nofun, exec_bind_error hExec⟩
  | ok _ =>
    exact ⟨_, s, log, lines.length, hCall, fun _ => rfl, (exec_bind_ok hExec).trans rfl⟩

/-- The exchanges once a plan is known, the trail being `trail` and the next identity `id` before,
what they come to, and the trail after them. -/
inductive Completion (t : Task) (plan : Plan) (trail : Trail) (id : Nat) :
    List Exchange → Except Abort Unit → Trail → Prop
  | headerFailed {failure : Mapping.HeaderFailure} {trail' : Trail} :
      boundHeader t trail id plan.headerRules = (.error failure, trail') →
      Completion t plan trail id [] (.error (.ofHeader failure)) trail'
  | headerUnsaved {header : Record} {trail' : Trail} {answer : Except String (Option Record)}
      {abort : Abort} :
      boundHeader t trail id plan.headerRules = (.ok header, trail') →
      savedHeader answer = .error abort →
      Completion t plan trail id [.saveHeader header answer] (.error abort) trail'
  | linesFailed {header saved : Record} {trail' : Trail}
      {answer : Except String (Option Record)} {abort : Abort} :
      boundHeader t trail id plan.headerRules = (.ok header, trail') →
      savedHeader answer = .ok saved →
      keptLines (boundLines t trail' (id + 1) saved plan.groups) = .error abort →
      Completion t plan trail id [.saveHeader header answer] (.error abort)
        (boundLines t trail' (id + 1) saved plan.groups).2.trail
  | noLines {header saved : Record} {trail' : Trail} {answer : Except String (Option Record)} :
      boundHeader t trail id plan.headerRules = (.ok header, trail') →
      savedHeader answer = .ok saved →
      keptLines (boundLines t trail' (id + 1) saved plan.groups) = .ok [] →
      Completion t plan trail id [.saveHeader header answer] (.ok ())
        (boundLines t trail' (id + 1) saved plan.groups).2.trail
  | linesSaved {header saved : Record} {trail' : Trail} {answer : Except String (Option Record)}
      {lines : List Record} (answer' : Except String Unit) :
      boundHeader t trail id plan.headerRules = (.ok header, trail') →
      savedHeader answer = .ok saved →
      keptLines (boundLines t trail' (id + 1) saved plan.groups) = .ok lines → lines ≠ [] →
      Completion t plan trail id [.saveHeader header answer, .saveLines lines answer']
        (answer'.mapError (Abort.store .saveLines))
        (boundLines t trail' (id + 1) saved plan.groups).2.trail

/-- The mapping once a header has come back. -/
def mapLines (repo : Repository σ) (t : Task) (header : Record) (groups : List LineGroup) :
    Step σ Unit := do
  let lines ← bindLines t header groups
  advance .linesBound
  saveLines repo t lines
  advance .linesSaved

/-- The exchanges once a header has come back, the trail being `trail` and the next identity `id`
before, and what they come to. -/
inductive Ending (t : Task) (header : Record) (groups : List LineGroup) (trail : Trail) (id : Nat) :
    List Exchange → Except Abort Unit → Prop
  | failed {abort : Abort} : keptLines (boundLines t trail id header groups) = .error abort →
      Ending t header groups trail id [] (.error abort)
  | noLines : keptLines (boundLines t trail id header groups) = .ok [] →
      Ending t header groups trail id [] (.ok ())
  | saved {lines : List Record} (answer : Except String Unit) :
      keptLines (boundLines t trail id header groups) = .ok lines → lines ≠ [] →
      Ending t header groups trail id [.saveLines lines answer]
        (answer.mapError (Abort.store .saveLines))

theorem Ending.completion {t : Task} {plan : Plan} {trail trail' : Trail} {id : Nat}
    {header saved : Record} {answer : Except String (Option Record)} {es : List Exchange}
    {result : Except Abort Unit} (h : Ending t saved plan.groups trail' (id + 1) es result)
    (hBound : boundHeader t trail id plan.headerRules = (.ok header, trail'))
    (hSaved : savedHeader answer = .ok saved) :
    Completion t plan trail id (.saveHeader header answer :: es) result
      (boundLines t trail' (id + 1) saved plan.groups).2.trail := by
  cases h with
  | failed hKept => exact .linesFailed hBound hSaved hKept
  | noLines hKept => exact .noLines hBound hSaved hKept
  | saved answer' hKept hLines => exact .linesSaved answer' hBound hSaved hKept hLines

/-- The mapping once a header has come back. If it ends well, the record of the attempt counts the lines
that have been stored. -/
theorem exec_mapLines (repo : Repository σ) (t : Task) (header : Record) (groups : List LineGroup)
    (a : Attempt (Traced σ)) :
    ∃ es result b, exec (mapLines repo.traced t header groups) a = (result, b) ∧
      Ending t header groups a.trail a.nextId es result ∧
      b.trail = (boundLines t a.trail a.nextId header groups).2.trail ∧
      b.nextId = (boundLines t a.trail a.nextId header groups).2.nextId ∧
      b.store.exchanges = a.store.exchanges ++ es ∧
      ∃ lineCount, b.outcome = { a.outcome with lineCount } ∧
        (result = .ok () → a.outcome.lineCount = 0 →
          (Progress.headed header 0).afterAll es = .headed header lineCount) := by
  obtain ⟨log, hLines⟩ := exec_bindLines t header groups a
  cases hKept : keptLines (boundLines t a.trail a.nextId header groups) with
  | error abort =>
    rw [hKept] at hLines
    exact ⟨[], _, _, exec_bind_error hLines, .failed hKept, rfl, rfl, (List.append_nil _).symm,
      a.outcome.lineCount, rfl, nofun⟩
  | ok lines =>
  rw [hKept] at hLines
  obtain ⟨b1, hb1, ho1, ht1, hn1, hs1⟩ := exec_advance_frame .linesBound
    { a with
      trail := (boundLines t a.trail a.nextId header groups).2.trail
      nextId := (boundLines t a.trail a.nextId header groups).2.nextId
      discovery := (boundLines t a.trail a.nextId header groups).2.discovery
      log }
  rw [mapLines, exec_bind_ok hLines, exec_bind_ok hb1]
  by_cases hNil : lines = []
  · subst hNil
    obtain ⟨log', hSave⟩ := exec_saveLines_nil t b1 repo.traced
    obtain ⟨b2, hb2, ho2, ht2, hn2, hs2⟩ := exec_advance_frame .linesSaved { b1 with log := log' }
    refine ⟨[], _, _, (exec_bind_ok hSave).trans hb2, .noLines hKept, ht2.trans ht1, hn2.trans hn1,
      by simp [hs2, hs1], a.outcome.lineCount, ho2.trans ho1, fun _ hNone => ?_⟩
    rw [hNone]
    rfl
  · obtain ⟨answer, s, log', lineCount, -, hCount, hSave⟩ := exec_saveLines repo t hNil b1
    have hEnding : Ending t header groups a.trail a.nextId _ _ := .saved answer hKept hNil
    cases answer with
    | error reason =>
      exact ⟨[.saveLines lines (.error reason)], _, _, exec_bind_error hSave, hEnding, ht1, hn1,
        by simp [hs1], lineCount, by simp [ho1], nofun⟩
    | ok done =>
      cases done
      obtain ⟨b2, hb2, ho2, ht2, hn2, hs2⟩ := exec_advance_frame .linesSaved
        { b1.answered [.saveLines lines (.ok ())] s log' with
          outcome := { b1.outcome with lineCount } }
      refine ⟨[.saveLines lines (.ok ())], _, _, (exec_bind_ok hSave).trans hb2, hEnding,
        ht2.trans ht1, hn2.trans hn1, by simp [hs2, hs1], lineCount, by simp [ho2, ho1],
        fun _ _ => ?_⟩
      rw [Progress.afterAll_cons, Progress.afterAll_nil, Progress.after, Nat.zero_add, hCount rfl]

/-- The mapping with a plan. It goes on giving out identities, and if it ends well, the record of the
attempt says what the exchanges come to. -/
theorem exec_mapBy (repo : Repository σ) (t : Task) (plan : Plan) (a : Attempt (Traced σ)) :
    ∃ es result b, exec (mapBy repo.traced t plan) a = (result, b) ∧
      Completion t plan a.trail a.nextId es result b.trail ∧
      b.store.exchanges = a.store.exchanges ++ es ∧ a.nextId < b.nextId ∧
      (∃ headerId lineCount, b.outcome = { a.outcome with headerId, lineCount }) ∧
      (result = .ok () → a.outcome.lineCount = 0 →
        (Progress.opening.afterAll es).RecordedBy b.outcome) := by
  obtain ⟨log, hBind⟩ := exec_bindHeader t plan.headerRules a
  rcases hBound : boundHeader t a.trail a.nextId plan.headerRules with ⟨failure | header, trail'⟩
  · rw [hBound] at hBind
    exact ⟨_, _, _, exec_bind_error hBind, .headerFailed hBound, (List.append_nil _).symm,
      Nat.lt_succ_self _, ⟨_, _, rfl⟩, nofun⟩
  rw [hBound] at hBind
  obtain ⟨b1, hb1, ho1, ht1, hn1, hs1⟩ := exec_advance_frame .headerBound
    { a with trail := trail', nextId := a.nextId + 1, log }
  obtain ⟨answer, s, log, headerId, -, hHeaderId, hSave⟩ := exec_saveHeader repo header b1
  rw [mapBy, exec_bind_ok hBind, exec_bind_ok hb1]
  cases hSaved : savedHeader answer with
  | error abort =>
    rw [hSaved] at hSave
    refine ⟨[.saveHeader header answer], _, _, exec_bind_error hSave, ?_, by simp [hs1],
      by simp [hn1], ⟨headerId, a.outcome.lineCount, ?_⟩, nofun⟩
    · simpa [ht1] using Completion.headerUnsaved hBound hSaved
    · simp [ho1]
  | ok saved =>
  rw [hSaved] at hSave
  obtain ⟨b2, hb2, ho2, ht2, hn2, hs2⟩ := exec_advance_frame .headerSaved
    { b1.answered [.saveHeader header answer] s log with
      outcome := { b1.outcome with headerId } }
  -- From here on the header is stored; what is left starts from the state after that.
  obtain ⟨es, result, b, hLines, hEnding, hTrail, hNext, hExchanges, lineCount, hOutcome, hCount⟩ :=
    exec_mapLines repo t saved plan.groups b2
  have hTrail2 : b2.trail = trail' := by simp [ht2, ht1]
  have hNext2 : b2.nextId = a.nextId + 1 := by simp [hn2, hn1]
  have hOutcome2 : b2.outcome = { a.outcome with headerId } := by simp [ho2, ho1]
  rw [hTrail2, hNext2] at hEnding hTrail hNext
  rw [hOutcome2] at hOutcome hCount
  refine ⟨.saveHeader header answer :: es, result, b, ?_, ?_, ?_, ?_,
    ⟨headerId, lineCount, hOutcome⟩, fun hOk hNone => ⟨saved, lineCount, ?_, ?_, ?_⟩⟩
  · rw [exec_bind_ok hSave, exec_bind_ok hb2]
    exact hLines
  · rw [hTrail]
    exact hEnding.completion hBound hSaved
  · simp [hExchanges, hs2, hs1]
  · rw [hNext]
    exact boundLines_nextId_le t trail' (a.nextId + 1) saved plan.groups
  · rw [Progress.afterAll_cons, after_saveHeader hSaved header]
    exact hCount hOk hNone
  · rw [hOutcome]
    exact hHeaderId saved hSaved
  · rw [hOutcome]

/-- The exchanges while a document is mapped, the attempt being recorded as `o`, the trail being
`trail` and the next identity `id` before, what they come to, and the trail after them. -/
inductive Mapped (t : Task) (o : Outcome) (trail : Trail) (id : Nat) :
    List Exchange → Except Abort Unit → Trail → Prop
  | unplanned {es : List Exchange} {abort : Abort} :
      Prelude t o es (.error abort) → Mapped t o trail id es (.error abort) trail
  | planned {plan : Plan} {es es' : List Exchange} {result : Except Abort Unit} {trail' : Trail} :
      Prelude t o es (.ok plan) → Completion t plan trail id es' result trail' →
      Mapped t o trail id (es ++ es') result trail'

theorem exec_map_mapped (repo : Repository σ) (t : Task) (a : Attempt (Traced σ)) :
    ∃ es result b, exec (map repo.traced t) a = (result, b) ∧
      Mapped t a.outcome a.trail a.nextId es result b.trail ∧
      b.store.exchanges = a.store.exchanges ++ es ∧ a.nextId ≤ b.nextId ∧
      (∀ header answer, .saveHeader header answer ∈ es → a.nextId < b.nextId) ∧
      (repo.KeepsOutcomes →
        (∃ headerId lineCount, b.outcome = { a.outcome with headerId, lineCount }) ∧
          (result = .ok () → a.outcome.lineCount = 0 →
            (Progress.opening.afterAll es).RecordedBy b.outcome)) := by
  obtain ⟨es, planned, s, log, o, hKept, hPrelude, hMap⟩ := exec_map repo t a
  cases planned with
  | error abort =>
    refine ⟨es, _, _, hMap, .unplanned hPrelude, rfl, Nat.le_refl _,
      fun header answer hMem => absurd hMem (hPrelude.saveHeader_notMem header answer),
      fun keeps => ?_⟩
    obtain rfl := hKept keeps
    exact ⟨⟨a.outcome.headerId, a.outcome.lineCount, rfl⟩, nofun⟩
  | ok plan =>
    obtain ⟨es', result, b, hMapBy, hCompletion, hExchanges, hNext, hOutcome, hRecorded⟩ :=
      exec_mapBy repo t plan ({ a with outcome := o }.answered es s log)
    refine ⟨es ++ es', result, b, hMap.trans hMapBy, .planned hPrelude hCompletion, ?_,
      Nat.le_of_lt hNext, fun _ _ _ => hNext, fun keeps => ?_⟩
    · rw [hExchanges, store_answered, List.append_assoc]
    · obtain rfl := hKept keeps
      rw [Progress.afterAll_append, hPrelude.afterAll]
      exact ⟨hOutcome, hRecorded⟩

/-- The record that is given back of an attempt which ends in the state `a`, by how the store answers
when it is recorded. An attempt that the store does not take counts as failed. -/
def returned (t : Task) (status : Status) (a : Attempt σ) :
    Except String (Option Outcome) → Outcome
  | .ok _ => (settle t status a).outcome
  | .error reason =>
    { (settle t status a).outcome with
      status := .error
      message := (a.trail.add (Abort.store .record reason).message).render }

theorem status_returned (t : Task) (status : Status) (a : Attempt σ)
    (answer : Except String (Option Outcome)) :
    (returned t status a answer).status =
      match answer with
      | .ok _ => status
      | .error _ => .error := by
  cases answer <;> rfl

/-- Recording what came of an attempt always succeeds. -/
theorem exec_finish (repo : Repository σ) (t : Task) (status : Status)
    (a : Attempt (Traced σ)) :
    ∃ answer b, exec (finish repo.traced t status) a = (.ok (), b) ∧
      b.store.exchanges = a.store.exchanges ++ [.record (settle t status a).outcome answer] ∧
      b.nextId = a.nextId ∧ (repo.KeepsOutcomes → b.outcome = returned t status a answer) := by
  obtain ⟨answer, s, log, o, hKept, hRecord⟩ := exec_record repo (settle t status a)
  refine ⟨answer, ?_⟩
  rw [finish, exec_bind_ok (exec_modify _ a), exec_bind_ok (exec_get _), exec_tryCatch, hRecord]
  cases answer with
  | ok _ => exact ⟨_, rfl, rfl, rfl, hKept⟩
  | error reason =>
    refine ⟨_, rfl, rfl, rfl, fun keeps => ?_⟩
    obtain rfl := hKept keeps
    rfl

/-- The state once the attempt has been announced in the log. -/
def announced (t : Task) (a : Attempt σ) : Attempt σ :=
  { a with log := a.log ++ [⟨.attempts, .info,
    "Processing " ++ t.kind.tag ++ " document " ++ t.fileName.getD "" ++ " for interface " ++
      shownText (t.interface.map fun i => i.value.name), t.logFields⟩] }

/-- The status with which an attempt ends. -/
def closingStatus : Except Abort Unit → Status
  | .ok () => .success
  | .error _ => .error

/-- The trail with which an attempt ends. -/
def closingTrail (trail : Trail) : Except Abort Unit → Trail
  | .ok () => trail
  | .error abort => trail.add abort.message

/-- Recording what came of an attempt ends well with every store. -/
theorem exec_finish_ok (repo : Repository σ) (t : Task) (status : Status) (a : Attempt σ) :
    ∃ b, exec (finish repo t status) a = (.ok (), b) := by
  rw [finish, exec_bind_ok (exec_modify _ a), exec_bind_ok (exec_get _), exec_tryCatch]
  rcases exec (record repo) (settle t status a) with ⟨_ | _, b⟩
  · exact ⟨_, rfl⟩
  · exact ⟨b, rfl⟩

theorem exec_complete (repo : Repository σ) (t : Task) (a : Attempt σ) :
    ∃ b, exec (complete repo t) a = exec (finish repo t .success) b ∧ b.outcome = a.outcome ∧
      b.trail = a.trail ∧ b.store = a.store ∧ b.nextId = a.nextId :=
  ⟨_, rfl, rfl, rfl, rfl, rfl⟩

theorem exec_giveUp (repo : Repository σ) (t : Task) (abort : Abort) (a : Attempt σ) :
    ∃ b, exec (giveUp repo t abort) a = exec (finish repo t .error) b ∧ b.outcome = a.outcome ∧
      b.trail = a.trail.add abort.message ∧ b.store = a.store ∧ b.nextId = a.nextId := by
  by_cases hFault : ∃ fault, abort = .fault fault
  · obtain ⟨fault, rfl⟩ := hFault
    exact ⟨_, rfl, rfl, rfl, rfl, rfl⟩
  · rw [giveUp_of_ne_fault fun fault he => hFault ⟨fault, he⟩]
    exact ⟨_, rfl, rfl, rfl, rfl, rfl⟩

/-- The whole course of an attempt comes to recording what came of the mapping. -/
theorem exec_course (repo : Repository σ) (t : Task) (a : Attempt σ) :
    ∃ b, exec (course repo t) a =
        exec (finish repo t (closingStatus (exec (map repo t) (a.announced t)).1)) b ∧
      b.outcome = (exec (map repo t) (a.announced t)).2.outcome ∧
      b.trail = closingTrail (exec (map repo t) (a.announced t)).2.trail
        (exec (map repo t) (a.announced t)).1 ∧
      b.store = (exec (map repo t) (a.announced t)).2.store ∧
      b.nextId = (exec (map repo t) (a.announced t)).2.nextId := by
  have hCourse : exec (course repo t) a =
      exec (tryCatch (do map repo t; complete repo t) (giveUp repo t)) (a.announced t) := rfl
  rw [hCourse, exec_tryCatch, exec_bind]
  rcases exec (map repo t) (a.announced t) with ⟨abort | _, c⟩
  · exact exec_giveUp repo t abort c
  · obtain ⟨b, hComplete, hb⟩ := exec_complete repo t c
    obtain ⟨d, hFinish⟩ := exec_finish_ok repo t .success b
    refine ⟨b, ?_, hb⟩
    simp only [hComplete, closingStatus, hFinish]

/-- The whole course of an attempt with a traced store, once it is known what the mapping comes to. -/
theorem exec_course_traced {repo : Repository σ} {t : Task} {a b : Attempt (Traced σ)}
    {result : Except Abort Unit} (hMap : exec (map repo.traced t) (a.announced t) = (result, b)) :
    ∃ (last : Attempt (Traced σ)) (answer : Except String (Option Outcome))
        (c : Attempt (Traced σ)), exec (course repo.traced t) a = (.ok (), c) ∧ last.outcome = b.outcome ∧
      last.trail = closingTrail b.trail result ∧
      c.store.exchanges = b.store.exchanges ++
        [.record (settle t (closingStatus result) last).outcome answer] ∧
      c.nextId = b.nextId ∧
      (repo.KeepsOutcomes → c.outcome = returned t (closingStatus result) last answer) := by
  obtain ⟨last, hCourse, hOutcome, hTrail, hStore, hNext⟩ := exec_course repo.traced t a
  rw [hMap] at hCourse hOutcome hTrail hStore hNext
  obtain ⟨answer, c, hFinish, hExchanges, hId, hReturned⟩ :=
    exec_finish repo t (closingStatus result) last
  refine ⟨last, answer, c, hCourse.trans hFinish, hOutcome, hTrail, ?_, hId.trans hNext, hReturned⟩
  rw [hExchanges, hStore]

end Attempt

end Intake
