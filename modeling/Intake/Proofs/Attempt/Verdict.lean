import Intake.Proofs.Attempt.Isolation

/-! What an attempt has to work with once its store has answered, and what comes of it. The rules that
the store answers with and the header that it gives back settle what becomes of the header and of the
lines; so they settle how an attempt ends whose calls all succeed. -/

namespace Intake

/-- Header rules lead to one list of entries only. -/
theorem Mapping.HeaderCourse.entries_unique {s : Scene} {n : XPath.Node} {header last last' : Record}
    {rules : List Rule} {entries entries' : List String}
    (h : HeaderCourse s n header rules entries last)
    (h' : HeaderCourse s n header rules entries' last') : entries = entries' := by
  induction h generalizing entries' with
  | done header =>
    cases h'
    rfl
  | applied hRule _ ih =>
    cases h' with
    | applied hRule' hRest =>
      rw [hRule] at hRule'
      cases hRule'
      exact ih hRest
    | skipped hRule' _ _ =>
      rw [hRule] at hRule'
      cases hRule'
  | skipped hRule _ _ ih =>
    cases h' with
    | applied hRule' _ =>
      rw [hRule] at hRule'
      cases hRule'
    | skipped hRule' _ hRest =>
      rw [hRule] at hRule'
      cases hRule'
      rw [ih hRest]

theorem DocumentKind.tables_ne (kind : DocumentKind) :
    kind.headerType.table ≠ kind.lineType.table := by
  cases kind <;> decide

namespace Attempt

open Mapping

/-- How an attempt whose record has the identity `id` fares with a plan, by the answers in `es`: the
header rules leave `entries` and lead to `header`, which came back as `saved`, and the lines come to
`tally`. -/
structure Carried (t : Task) (id : Nat) (es : List Exchange) (plan : Plan) (header saved : Record)
    (entries : List String) (tally : Tally) : Prop where
  bound : boundHeader t ⟨t.settings.trailLength, []⟩ (id + 1) plan.headerRules =
    (.ok header, ⟨t.settings.trailLength, entries⟩)
  stored : .saveHeader header (.ok (some saved)) ∈ es
  lines : boundLines t ⟨t.settings.trailLength, entries⟩ (id + 2) saved plan.groups = (.ok (), tally)

/-- How an attempt fares with the plan that the rules in the answers make. -/
structure Worked (t : Task) (id : Nat) (es : List Exchange) (plan : Plan) (header saved : Record)
    (entries : List String) (tally : Tally) : Prop
    extends Carried t id es plan header saved entries tally where
  planned : ∃ headerRules lineRules, plan = (Plan.ofRules headerRules lineRules).value ∧
    .rules t.interfaceId t.kind.headerType.table (.ok (some headerRules)) ∈ es ∧
    .rules t.interfaceId t.kind.lineType.table (.ok (some lineRules)) ∈ es

section Worked

variable {t : Task} {id : Nat} {es es' : List Exchange} {plan : Plan} {header saved : Record}
  {entries : List String} {tally : Tally} {result : Except Abort Unit} {trail : Trail} {o : Outcome}

theorem Worked.mono (h : Worked t id es plan header saved entries tally) (hSub : es ⊆ es') :
    Worked t id es' plan header saved entries tally := by
  obtain ⟨headerRules, lineRules, hPlan, hHeader, hLine⟩ := h.planned
  exact ⟨⟨h.bound, hSub h.stored, h.lines⟩, headerRules, lineRules, hPlan, hSub hHeader, hSub hLine⟩

/-- The record at the end of an attempt settles nothing. -/
theorem Worked.of_concat {closing : Outcome} {answer : Except String (Option Outcome)}
    (h : Worked t id (es ++ [.record closing answer]) plan header saved entries tally) :
    Worked t id es plan header saved entries tally := by
  obtain ⟨headerRules, lineRules, hPlan, hHeader, hLine⟩ := h.planned
  have hStored := h.stored
  simp only [List.mem_append, List.mem_singleton, reduceCtorEq, or_false] at hHeader hLine hStored
  exact ⟨⟨h.bound, hStored, h.lines⟩, headerRules, lineRules, hPlan, hHeader, hLine⟩

theorem Carried.course (h : Carried t id es plan header saved entries tally) :
    HeaderCourse t.scene t.start (openingHeader t (id + 1)) plan.headerRules entries header := by
  obtain ⟨entries', hCourse, -, hTrail⟩ := bindHeader_ok h.bound
  have hSame : entries = entries' := by simpa using congrArg Trail.entries hTrail
  rw [hSame]
  exact hCourse

theorem Carried.accounted (h : Carried t id es plan header saved entries tally) :
    ∃ turns, LinesAccounted t ⟨t.settings.trailLength, entries⟩ (id + 2) saved plan.groups turns
      tally := by
  obtain ⟨turns, hAccounts⟩ := bindGroups_accounts Accounts.start h.lines
  exact ⟨turns, .of_accounts hAccounts⟩

theorem Prelude.plan_unique {headerRules lineRules : List Rule} (h : Prelude t o es (.ok plan))
    (hHeader : .rules t.interfaceId t.kind.headerType.table (.ok (some headerRules)) ∈ es)
    (hLine : .rules t.interfaceId t.kind.lineType.table (.ok (some lineRules)) ∈ es) :
    plan = (Plan.ofRules headerRules lineRules).value := by
  have hOther := t.kind.tables_ne
  cases h with
  | recorded answer hResolution =>
    cases hResolution with
    | planned headerRules' lineRules' =>
      simp only [List.mem_cons, reduceCtorEq, Exchange.rules.injEq, true_and, Except.ok.injEq,
        Option.some.injEq, hOther, false_and, List.not_mem_nil, or_false, false_or] at hHeader
      simp only [List.mem_cons, reduceCtorEq, Exchange.rules.injEq, true_and, Except.ok.injEq,
        Option.some.injEq, hOther.symm, false_and, List.not_mem_nil, or_false, false_or] at hLine
      rw [hHeader, hLine]

/-- Once there is a plan, the store is not asked for rules again. -/
theorem Completion.rules_notMem {trail' : Trail} (h : Completion t plan trail id es result trail')
    (interfaceId : Option Nat) (table : String) (answer : Except String (Option (List Rule))) :
    .rules interfaceId table answer ∉ es := by
  cases h <;> simp

theorem Carried.of_kept {trail' : Trail} {lines : List Record}
    {answer : Except String (Option Record)}
    (hBound : boundHeader t ⟨t.settings.trailLength, []⟩ (id + 1) plan.headerRules =
      (.ok header, trail'))
    (hSaved : savedHeader answer = .ok saved) (hMem : .saveHeader header answer ∈ es)
    (hKept : keptLines (boundLines t trail' (id + 2) saved plan.groups) = .ok lines) :
    ∃ entries, Carried t id es plan header saved entries
      (boundLines t trail' (id + 2) saved plan.groups).2 := by
  obtain ⟨entries, hMapped, rfl⟩ := HeaderMapped.of_saved hBound hSaved hMem
  obtain ⟨hOk, -, -⟩ := keptLines_eq_ok hKept
  exact ⟨entries, hBound, hMapped.saved, Prod.ext hOk rfl⟩

theorem Completion.carried {trail' : Trail}
    (h : Completion t plan ⟨t.settings.trailLength, []⟩ (id + 1) es (.ok ()) trail') :
    ∃ header saved entries tally, Carried t id es plan header saved entries tally ∧
      trail' = tally.trail := by
  generalize hResult : (.ok () : Except Abort Unit) = result at h
  cases h with
  | noLines hBound hSaved hKept =>
    obtain ⟨entries, hCarried⟩ := Carried.of_kept hBound hSaved List.mem_cons_self hKept
    exact ⟨_, _, entries, _, hCarried, rfl⟩
  | linesSaved answer' hBound hSaved hKept hLines =>
    obtain ⟨entries, hCarried⟩ := Carried.of_kept hBound hSaved List.mem_cons_self hKept
    exact ⟨_, _, entries, _, hCarried, rfl⟩
  | _ => cases hResult

/-- A mapping that ends well has gone through the header and the lines. -/
theorem Mapped.worked (h : Mapped t o ⟨t.settings.trailLength, []⟩ (id + 1) es (.ok ()) trail) :
    ∃ plan header saved entries tally, Worked t id es plan header saved entries tally ∧
      trail = tally.trail := by
  generalize hResult : (.ok () : Except Abort Unit) = result at h
  cases h with
  | unplanned _ => cases hResult
  | @planned plan _ _ _ _ hPrelude hCompletion =>
    rw [← hResult] at hCompletion
    obtain ⟨headerRules, lineRules, hPlan, hHeaderRules, hLineRules⟩ := hPrelude.planned_rules
    obtain ⟨header, saved, entries, tally, hCarried, hTrail⟩ := hCompletion.carried
    refine ⟨plan, header, saved, entries, tally, ⟨⟨hCarried.bound, ?_, hCarried.lines⟩, ?_⟩, hTrail⟩
    · exact List.mem_append_right _ hCarried.stored
    · exact ⟨headerRules, lineRules, hPlan, List.mem_append_left _ hHeaderRules,
        List.mem_append_left _ hLineRules⟩

/-- The lines are bound under the header that came back, where only one has been stored. -/
theorem Carried.boundLines_eq {header' saved' : Record} {trail' : Trail}
    {answer : Except String (Option Record)} {more : List Exchange}
    (h : Carried t id (.saveHeader header' answer :: more) plan header saved entries tally)
    (hMore : ∀ stored reply, .saveHeader stored reply ∉ more)
    (hBound : boundHeader t ⟨t.settings.trailLength, []⟩ (id + 1) plan.headerRules =
      (.ok header', trail'))
    (hSaved : savedHeader answer = .ok saved') :
    saved' = saved ∧ boundLines t trail' (id + 2) saved' plan.groups = (.ok (), tally) := by
  obtain ⟨rfl, -⟩ := savedHeader_eq_ok hSaved
  rw [h.bound] at hBound
  cases hBound
  obtain rfl : saved = saved' := by simpa [hMore] using h.stored
  exact ⟨rfl, h.lines⟩

/-- With calls that all succeed, the header and the lines settle how the mapping ends, and how many lines
have been kept if it ends well. -/
theorem Completion.of_carried {trail' : Trail}
    (h : Completion t plan ⟨t.settings.trailLength, []⟩ (id + 1) es result trail')
    (hAll : ∀ e ∈ es, e.succeeded) (hCarried : Carried t id es plan header saved entries tally) :
    result = (keptLines (.ok (), tally)).map (fun _ => ()) ∧ trail' = tally.trail ∧
      (result = .ok () → Progress.opening.afterAll es = .headed saved tally.lines.length) := by
  cases h with
  | headerFailed hFailed =>
    rw [hCarried.bound] at hFailed
    cases hFailed
  | @headerUnsaved header' _ answer _ _ hUnsaved =>
    obtain ⟨saved', hOk⟩ := exists_savedHeader (hAll (.saveHeader header' answer) (by simp))
    rw [hOk] at hUnsaved
    cases hUnsaved
  | linesFailed hBound hSaved hKept =>
    obtain ⟨rfl, hLines⟩ := hCarried.boundLines_eq (by simp) hBound hSaved
    rw [hLines] at hKept ⊢
    rw [hKept]
    exact ⟨rfl, rfl, nofun⟩
  | noLines hBound hSaved hKept =>
    obtain ⟨rfl, hLines⟩ := hCarried.boundLines_eq (by simp) hBound hSaved
    rw [hLines] at hKept ⊢
    obtain ⟨-, hNone, -⟩ := keptLines_eq_ok hKept
    rw [hKept, Progress.afterAll_cons, after_saveHeader hSaved]
    exact ⟨rfl, rfl, fun _ => by rw [show tally.lines = [] from hNone]; rfl⟩
  | @linesSaved _ _ _ _ lines answer' hBound hSaved hKept hSome =>
    obtain ⟨rfl, hLines⟩ := hCarried.boundLines_eq (by simp) hBound hSaved
    have hAnswer := hAll (.saveLines lines answer') (by simp)
    rw [hLines] at hKept ⊢
    obtain ⟨-, hSame, -⟩ := keptLines_eq_ok hKept
    cases answer' with
    | error reason => cases hAnswer
    | ok _ =>
      rw [hKept, Progress.afterAll_cons, after_saveHeader hSaved]
      refine ⟨rfl, rfl, fun _ => ?_⟩
      rw [show tally.lines = lines from hSame, Progress.afterAll_cons, Progress.after,
        Nat.zero_add, Progress.afterAll_nil]

theorem Mapped.of_worked
    (h : Mapped t o ⟨t.settings.trailLength, []⟩ (id + 1) es result trail)
    (hAll : ∀ e ∈ es, e.succeeded) (hWorked : Worked t id es plan header saved entries tally) :
    result = (keptLines (.ok (), tally)).map (fun _ => ()) ∧ trail = tally.trail ∧
      (result = .ok () → Progress.opening.afterAll es = .headed saved tally.lines.length) := by
  cases h with
  | unplanned hPrelude =>
    obtain ⟨plan', hPlan⟩ := hPrelude.exists_plan hAll
    cases hPlan
  | @planned plan' es₁ es₂ _ _ hPrelude hCompletion =>
    obtain ⟨headerRules, lineRules, hPlan, hHeader, hLine⟩ := hWorked.planned
    -- Rules are asked for before there is a plan only, so the answers make one plan.
    have hHeader₁ := (List.mem_append.mp hHeader).resolve_right (hCompletion.rules_notMem _ _ _)
    have hLine₁ := (List.mem_append.mp hLine).resolve_right (hCompletion.rules_notMem _ _ _)
    obtain rfl : plan' = plan := (hPrelude.plan_unique hHeader₁ hLine₁).trans hPlan.symm
    have hStored := (List.mem_append.mp hWorked.stored).resolve_left
      (hPrelude.saveHeader_notMem _ _)
    rw [Progress.afterAll_append, hPrelude.afterAll]
    exact hCompletion.of_carried (fun e hMem => hAll e (List.mem_append_right _ hMem))
      ⟨hWorked.bound, hStored, hWorked.lines⟩

end Worked

/-- An attempt that ends well has gone through the header and the lines, and says what they left in its
trail. -/
theorem run_worked {σ : Type} {repo : Repository σ} (keeps : repo.KeepsOutcomes) {t : Task} {store : σ}
    {nextId : Nat} {log : List Log.Entry}
    (h : (run repo t store nextId log).outcome.status = .success) :
    ∃ plan header saved entries tally,
      Worked t nextId (exchanges repo t store nextId log) plan header saved entries tally ∧
      (run repo t store nextId log).outcome.message = tally.trail.render := by
  obtain ⟨before, result, trail, last, answer, hEnded⟩ := run_ended repo t store nextId log
  have hReply := hEnded.reply keeps
  have hEnd := congrArg Outcome.status hReply
  rw [h, status_returned] at hEnd
  cases answer with
  | error reason => cases hEnd
  | ok recorded =>
    cases result with
    | error abort => cases hEnd
    | ok done =>
      obtain ⟨plan, header, saved, entries, tally, hWorked, hTrail⟩ := hEnded.mapped.worked
      have hMessage : (run repo t store nextId log).outcome.message = last.trail.render :=
        congrArg Outcome.message hReply
      refine ⟨plan, header, saved, entries, tally, ?_, ?_⟩
      · rw [hEnded.made]
        exact hWorked.mono (List.subset_append_left _ _)
      · rw [hMessage, hEnded.closed, ← hTrail]
        rfl

end Attempt

end Intake
