import Intake.Proofs.Attempt.Verdict

/-! What an attempt says at its end. Its message keeps to the limit of the trail; a failed attempt has
one, and an attempt that ends well has one exactly if a header field, a line or a group of lines has
failed. -/

namespace Intake

open Mapping

/-- A record says what came of its document, in a message of at most `limit` characters, and always if
that is a failure. -/
structure Outcome.Reports (o : Outcome) (limit : Int) : Prop where
  ended : o.status = .success ∨ o.status = .error
  bounded : ∀ m, o.message = some m → (m.length : Int) ≤ limit
  told : o.status = .error → ∃ m, o.message = some m ∧ m ≠ ""

section Words

open Text

theorem Query.Refusal.message_notBlank (refusal : Query.Refusal) :
    isBlankText refusal.message = false := by
  obtain ⟨path, cause⟩ := refusal
  cases cause with
  | none =>
    have hEmpty : isBlankText "Path is empty" = false := by decide
    exact hEmpty
  | some e =>
    have hCannot : isBlankText "Cannot evaluate path '" = false := by decide
    exact notBlank_append_left (notBlank_append_left (notBlank_append_left hCannot path) _) _

theorem Binding.Refusal.message_notBlank (refusal : Binding.Refusal) :
    isBlankText refusal.message = false := by
  obtain ⟨recordType, field, rule, cause⟩ := refusal
  cases cause with
  | unknownField =>
    have hField : isBlankText " has no field '" = false := by decide
    exact notBlank_append_left (notBlank_append_left (notBlank_append_right hField recordType) _) _
  | missingValue =>
    have hQuote : isBlankText "'" = false := by decide
    exact notBlank_append_right hQuote _
  | unusable refusal =>
    have hField : isBlankText "Field '" = false := by decide
    exact notBlank_append_left (notBlank_append_left (notBlank_append_left hField _) _) _
  | unassignable objection =>
    have hAssign : isBlankText "Cannot assign field '" = false := by decide
    exact notBlank_append_left (notBlank_append_left (notBlank_append_left hAssign _) _) _
  | unreachable refusal => exact refusal.message_notBlank

/-- Only a caller's check can give an attempt up without a word. -/
theorem Abort.message_notBlank {abort : Abort} (h : ∀ rejection, abort ≠ .rejected rejection) :
    isBlankText abort.message = false := by
  cases abort with
  | store call reason =>
    have hFailed : isBlankText "Persistence failed during " = false := by decide
    exact notBlank_append_left (notBlank_append_left (notBlank_append_left hFailed _) _) reason
  | noIdentity =>
    have hHeader : isBlankText "Header was not assigned an identity" = false := by decide
    exact hHeader
  | header refusal => exact refusal.message_notBlank
  | clash c =>
    have hFields : isBlankText "' are indistinguishable to mapping rules" = false := by decide
    exact notBlank_append_right hFields _
  | rejected rejection => exact absurd rfl (h rejection)
  | noLines failed =>
    have hFailed : isBlankText " lines failed" = false := by decide
    exact notBlank_append_right hFailed _
  | fault f =>
    have hUnexpected : isBlankText "Unexpected error: " = false := by decide
    exact notBlank_append_left hUnexpected f.message

end Words

theorem Abort.ofBinding_ne_rejected (failure : Binding.Failure) (rejection : Rejection) :
    Abort.ofBinding failure ≠ .rejected rejection := by
  cases failure <;> simp [ofBinding]

/-- Turns leave no entry if no line fails and no group is skipped. -/
theorem Mapping.filterMap_entry?_eq_nil {turns : List Turn} :
    turns.filterMap Turn.entry? = [] ↔
      turns.filterMap Turn.failure? = [] ∧ turns.filterMap Turn.skip? = [] := by
  simp only [List.filterMap_eq_nil_iff]
  constructor
  · intro hNone
    refine ⟨fun turn hTurn => ?_, fun turn hTurn => ?_⟩
    · match turn, hNone turn hTurn with
      | .tried _ _ _ (.bound _), _ => rfl
    · match turn, hNone turn hTurn with
      | .tried _ _ _ (.bound _), _ => rfl
  · rintro ⟨hFailures, hSkips⟩ turn hTurn
    match turn, hFailures turn hTurn, hSkips turn hTurn with
    | .tried _ _ _ (.bound _), _, _ => rfl

namespace Attempt

variable {σ : Type} {t : Task} {o : Outcome} {plan : Plan} {trail trail' : Trail} {id : Nat}
  {es : List Exchange} {header saved : Record} {entries : List String} {tally : Tally}

theorem boundHeader_limit (t : Task) (trail : Trail) (id : Nat) (rules : List Rule) :
    (boundHeader t trail id rules).2.limit = trail.limit := by
  rcases hBound : boundHeader t trail id rules with ⟨failure | header, trail'⟩
  · obtain ⟨entries, -, hTrail⟩ := bindHeader_error t.kind.headerType_isOpen hBound
    rw [hTrail]
  · obtain ⟨entries, -, -, hTrail⟩ := bindHeader_ok hBound
    rw [hTrail]

theorem Completion.limit {result : Except Abort Unit}
    (h : Completion t plan trail id es result trail') : trail'.limit = trail.limit := by
  have hHeader : ∀ {x : Except HeaderFailure Record} {trail'' : Trail},
      boundHeader t trail id plan.headerRules = (x, trail'') → trail''.limit = trail.limit := by
    intro x trail'' hBound
    have hLimit := boundHeader_limit t trail id plan.headerRules
    rw [hBound] at hLimit
    exact hLimit
  cases h with
  | headerFailed hBound => exact hHeader hBound
  | headerUnsaved hBound _ => exact hHeader hBound
  | linesFailed hBound _ _ => exact (boundLines_limit t _ _ _ _).trans (hHeader hBound)
  | noLines hBound _ _ => exact (boundLines_limit t _ _ _ _).trans (hHeader hBound)
  | linesSaved _ hBound _ _ _ => exact (boundLines_limit t _ _ _ _).trans (hHeader hBound)

theorem Mapped.limit {result : Except Abort Unit} (h : Mapped t o trail id es result trail') :
    trail'.limit = trail.limit := by
  cases h with
  | unplanned _ => rfl
  | planned _ hCompletion => exact hCompletion.limit

theorem Prelude.ne_rejected {abort : Abort} (h : Prelude t o es (.error abort))
    (rejection : Rejection) : abort ≠ .rejected rejection := by
  cases h with
  | unrecorded reason => simp
  | recorded answer hResolution => cases hResolution <;> simp

theorem savedHeader_ne_rejected {answer : Except String (Option Record)} {abort : Abort}
    (h : savedHeader answer = .error abort) (rejection : Rejection) :
    abort ≠ .rejected rejection := by
  cases answer with
  | error reason =>
    cases h
    simp
  | ok kept =>
    cases kept with
    | none =>
      cases h
      simp
    | some header =>
      unfold savedHeader at h
      dsimp only at h
      split at h
      · cases h
      · cases h
        simp

/-- Without a check that the caller adds, no header is rejected. -/
theorem Completion.ne_rejected {abort : Abort} (hChecks : ∀ header, t.checks.header header = none)
    (h : Completion t plan ⟨t.settings.trailLength, []⟩ id es (.error abort) trail')
    (rejection : Rejection) : abort ≠ .rejected rejection := by
  generalize hResult : (.error abort : Except Abort Unit) = result at h
  cases h with
  | @headerFailed failure _ hBound =>
    cases hResult
    obtain ⟨entries, hStop, -⟩ := boundHeader_error hBound
    cases hStop with
    | @refused _ _ _ _ _ refusal => exact Abort.ofBinding_ne_rejected (.refused refusal) rejection
    | @fault _ _ _ _ _ fault => exact Abort.ofBinding_ne_rejected (.fault fault) rejection
    | @rejected _ last _ _ hRejected =>
      rw [hChecks last] at hRejected
      cases hRejected
  | headerUnsaved _ hUnsaved =>
    cases hResult
    exact savedHeader_ne_rejected hUnsaved rejection
  | linesFailed _ _ hKept =>
    cases hResult
    rcases keptLines_error hKept with ⟨group, -, fault, -, rfl⟩ | ⟨turns, -, -, -, rfl⟩
    · simp
    · simp
  | noLines => cases hResult
  | linesSaved answer' =>
    cases answer' with
    | error reason =>
      cases hResult
      simp
    | ok done => cases hResult

theorem Mapped.abort_notBlank {abort : Abort} (hChecks : ∀ header, t.checks.header header = none)
    (h : Mapped t o ⟨t.settings.trailLength, []⟩ id es (.error abort) trail) :
    Text.isBlankText abort.message = false := by
  generalize hResult : (.error abort : Except Abort Unit) = result at h
  refine Abort.message_notBlank ?_
  cases h with
  | unplanned hPrelude =>
    cases hResult
    exact hPrelude.ne_rejected
  | planned _ hCompletion =>
    rw [← hResult] at hCompletion
    exact hCompletion.ne_rejected hChecks

/-- An attempt reports what came of it, whatever its store answers. -/
theorem run_reports {repo : Repository σ} (keeps : repo.KeepsOutcomes) (t : Task)
    (hChecks : ∀ header, t.checks.header header = none) (hLimit : 3 ≤ t.settings.trailLength)
    (store : σ) (nextId : Nat) (log : List Log.Entry) :
    (run repo t store nextId log).outcome.Reports t.settings.trailLength := by
  obtain ⟨before, result, trail, last, answer, hEnded⟩ := run_ended repo t store nextId log
  have hTrail : trail.limit = t.settings.trailLength := hEnded.mapped.limit
  have hLast : last.trail.limit = t.settings.trailLength := by
    rw [hEnded.closed, ← hTrail]
    cases result with
    | error abort => exact Trail.limit_add trail abort.message
    | ok done => rfl
  rw [hEnded.reply keeps]
  cases answer with
  | ok recorded =>
    refine ⟨?_, fun m hMessage => ?_, fun hStatus => ?_⟩
    · cases result with
      | error abort => exact .inr rfl
      | ok done => exact .inl rfl
    · rw [← hLast]
      exact Trail.length_render (hLast ▸ hLimit) hMessage
    · cases result with
      | ok done => cases hStatus
      | error abort =>
        show ∃ m, last.trail.render = some m ∧ m ≠ ""
        rw [hEnded.closed]
        exact Trail.render_add (hEnded.mapped.abort_notBlank hChecks)
  | error reason =>
    -- The record was not taken, so the trail goes on with the reason and is rendered again.
    have hMessage : Text.isBlankText (Abort.store .record reason).message = false :=
      Abort.message_notBlank (by simp)
    have hMore : (last.trail.add (Abort.store .record reason).message).limit =
        t.settings.trailLength := (Trail.limit_add _ _).trans hLast
    refine ⟨.inr rfl, fun m hRender => ?_, fun _ => Trail.render_add hMessage⟩
    rw [← hMore]
    exact Trail.length_render (hMore ▸ hLimit) hRender

/-- The trail of the lines is empty exactly if nothing has failed. -/
theorem Carried.trail_empty_iff (h : Carried t id es plan header saved entries tally) :
    tally.trail.entries = [] ↔
      HeaderCourse t.scene t.start (openingHeader t (id + 1)) plan.headerRules [] header ∧
        tally.failed = 0 ∧
        ∀ group ∈ plan.groups, (visitOf t.scene t.start group).skip? = none := by
  obtain ⟨turns, hAccounted⟩ := h.accounted
  have hAccounts := hAccounted.accounts
  have hHeader : entries = [] ↔
      HeaderCourse t.scene t.start (openingHeader t (id + 1)) plan.headerRules [] header := by
    constructor
    · rintro rfl
      exact h.course
    · exact fun hCourse => h.course.entries_unique hCourse
  have hFailed : turns.filterMap Turn.failure? = [] ↔ tally.failed = 0 := by
    rw [hAccounts.failed, List.length_eq_zero_iff]
  have hSkipped : turns.filterMap Turn.skip? = [] ↔
      ∀ group ∈ plan.groups, (visitOf t.scene t.start group).skip? = none := by
    rw [hAccounts.skipped, List.filterMap_eq_nil_iff]
    constructor
    · intro hNone group hGroup
      obtain ⟨place, hPlace⟩ := List.getElem?_of_mem
        (List.mem_map_of_mem (f := visitOf t.scene t.start) hGroup)
      have hSkip := hNone (visitOf t.scene t.start group, place)
        (List.mem_zipIdx_iff_getElem?.mpr hPlace)
      exact Option.map_eq_none_iff.mp hSkip
    · rintro hNone ⟨visit, place⟩ hVisit
      have hMem := List.mem_of_getElem? (List.mem_zipIdx_iff_getElem?.mp hVisit)
      obtain ⟨group, hGroup, rfl⟩ := List.mem_map.mp hMem
      exact Option.map_eq_none_iff.mpr (hNone group hGroup)
  rw [hAccounts.trail, List.append_eq_nil_iff, filterMap_entry?_eq_nil, hHeader, hFailed, hSkipped]

/-- The message of an attempt that has had the exchanges `es` is missing exactly if all header rules
apply, no line fails and no group of lines is skipped. -/
def TellsFailures (t : Task) (id : Nat) (es : List Exchange) (message : Option String) : Prop :=
  ∃ plan header saved entries tally, Worked t id es plan header saved entries tally ∧
    (message = none ↔
      HeaderCourse t.scene t.start (openingHeader t (id + 1)) plan.headerRules [] header ∧
        tally.failed = 0 ∧
        ∀ group ∈ plan.groups, (visitOf t.scene t.start group).skip? = none)

theorem run_tellsFailures {repo : Repository σ} (keeps : repo.KeepsOutcomes) {store : σ}
    {nextId : Nat} {log : List Log.Entry}
    (h : (run repo t store nextId log).outcome.status = .success) :
    TellsFailures t nextId (exchanges repo t store nextId log)
      (run repo t store nextId log).outcome.message := by
  obtain ⟨plan, header, saved, entries, tally, hWorked, hMessage⟩ := run_worked keeps h
  refine ⟨plan, header, saved, entries, tally, hWorked, ?_⟩
  rw [hMessage, Trail.render_eq_none]
  exact hWorked.trail_empty_iff

end Attempt

end Intake
