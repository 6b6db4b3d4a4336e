import Intake.Proofs.Attempt.Isolation

/-! What an attempt writes. It keeps to what a writer may do, whatever the store answers: the header has
the first of the identities that the attempt has to give and belongs to the owner of the attempt, the
lines belong to the header that came back, and a success names that header and counts those lines. -/

namespace Intake

open Mapping

namespace Record

variable {s : MappingSettings} {now : Calendar.DateTime} {kind : DocumentKind} {id : Nat}
  {clientId : Option Int}

theorem freshHeader_id :
    (freshHeader s now kind id clientId).get? "id" = some (.identifier id) := by
  cases kind <;> rfl

theorem freshHeader_owner :
    (freshHeader s now kind id clientId).get? "client_id" = clientId.map .whole := by
  cases kind <;> rfl

end Record

/-- The header rules leave the fields alone that are out of the reach of rules. -/
theorem Mapping.HeaderCourse.get?_protected {s : Scene} {n : XPath.Node} {header last : Record}
    {rules : List Rule} {entries : List String} {name : String}
    (h : HeaderCourse s n header rules entries last) (hName : name ∈ protectedFields) :
    last.get? name = header.get? name := by
  induction h with
  | done header => rfl
  | applied hRule _ ih => rw [ih, (applyRule_assigned hRule).get?_protected hName]
  | skipped _ _ _ ih => exact ih

/-- The writer that an attempt is. -/
def Task.writer (t : Task) (low high : Nat) : Writer := ⟨t.kind, t.clientId, low, high⟩

namespace Attempt

variable {t : Task} {o : Outcome} {plan : Plan} {trail trail' : Trail} {id low high : Nat}
  {es : List Exchange}

theorem Prelude.allowed {result : Except Abort Plan} {w : Writer} {p : Progress}
    (h : Prelude t o es result) (hStatus : o.status ≠ .success) : w.AllowsAll p es := by
  cases h with
  | unrecorded reason => exact ⟨.record _ hStatus, trivial⟩
  | recorded answer hResolution =>
    refine ⟨.record _ hStatus, ?_⟩
    cases hResolution with
    | noHeaderRules => exact ⟨.rules _, trivial⟩
    | noLineRules => exact ⟨.rules _, .rules _, trivial⟩
    | noAnswer => exact ⟨.rules _, .rules _, trivial⟩
    | planned => exact ⟨.rules _, .rules _, trivial⟩

/-- A header that all its rules have been tried on may be stored. -/
theorem allows_boundHeader {header : Record} {rules : List Rule}
    (hBound : boundHeader t trail id rules = (.ok header, trail')) (hLow : low ≤ id)
    (hHigh : id < high) (answer : Except String (Option Record)) :
    (t.writer low high).Allows .opening (.saveHeader header answer) := by
  obtain ⟨entries, hCourse, -, -⟩ := bindHeader_ok hBound
  refine .saveHeader answer hCourse.type ?_ hLow hHigh ?_
  · rw [hCourse.get?_protected (by decide), Record.freshHeader_id]
  · rw [hCourse.get?_protected (by decide), Record.freshHeader_owner]
    rfl

/-- Lines that have been bound may be stored with the header that they were bound for. -/
theorem allows_keptLines {header : Record} {groups : List LineGroup} {lines : List Record}
    {count : Nat} (hKept : keptLines (boundLines t trail id header groups) = .ok lines)
    (answer : Except String Unit) :
    (t.writer low high).Allows (.headed header count) (.saveLines lines answer) := by
  refine .saveLines answer fun line hLine => ?_
  obtain ⟨turns, hAccounted, rfl, -⟩ := keptLines_ok hKept
  obtain ⟨n, group, index, id, number, hBound⟩ := exists_bindLine hAccounted.accounts hLine
  have hKeeps := kept_of_bindLine hBound
  exact ⟨hKeeps.type, hKeeps.headerId, hKeeps.owner⟩

theorem Completion.allowed {result : Except Abort Unit}
    (h : Completion t plan trail id es result trail') (hLow : low ≤ id)
    (hHigh : ∀ header answer, .saveHeader header answer ∈ es → id < high) :
    (t.writer low high).AllowsAll .opening es := by
  have hSaved : ∀ {header : Record} {answer : Except String (Option Record)} {trail'' : Trail},
      .saveHeader header answer ∈ es →
      boundHeader t trail id plan.headerRules = (.ok header, trail'') →
      (t.writer low high).Allows .opening (.saveHeader header answer) :=
    fun hMem hBound => allows_boundHeader hBound hLow (hHigh _ _ hMem) _
  cases h with
  | headerFailed => trivial
  | headerUnsaved hBound => exact ⟨hSaved List.mem_cons_self hBound, trivial⟩
  | linesFailed hBound => exact ⟨hSaved List.mem_cons_self hBound, trivial⟩
  | noLines hBound => exact ⟨hSaved List.mem_cons_self hBound, trivial⟩
  | @linesSaved header _ _ _ _ answer' hBound hCameBack hKept hLines =>
    refine ⟨hSaved List.mem_cons_self hBound, ?_, trivial⟩
    rw [after_saveHeader hCameBack header]
    exact allows_keptLines hKept answer'

theorem Mapped.allowed {result : Except Abort Unit} (h : Mapped t o trail id es result trail')
    (hStatus : o.status ≠ .success) (hLow : low ≤ id)
    (hHigh : ∀ header answer, .saveHeader header answer ∈ es → id < high) :
    (t.writer low high).AllowsAll .opening es := by
  cases h with
  | unplanned hPrelude => exact hPrelude.allowed hStatus
  | planned hPrelude hCompletion =>
    rw [Writer.allowsAll_append, hPrelude.afterAll]
    refine ⟨hPrelude.allowed hStatus, hCompletion.allowed hLow fun header answer hMem => ?_⟩
    exact hHigh header answer (List.mem_append_right _ hMem)

/-- An attempt keeps to what a writer may do that has the identities to give which the attempt gives
out. -/
theorem exchanges_allowed {σ : Type} {repo : Repository σ} (keeps : repo.KeepsOutcomes) (t : Task)
    (store : σ) (nextId : Nat) (log : List Log.Entry) :
    nextId ≤ (run repo t store nextId log).nextId ∧
      (t.writer nextId (run repo t store nextId log).nextId).AllowsAll .opening
        (exchanges repo t store nextId log) := by
  obtain ⟨before, result, trail, last, answer, hEnded⟩ := run_ended repo t store nextId log
  have hOpen : Status.processing ≠ .success := by decide
  rw [hEnded.made, Writer.allowsAll_append]
  refine ⟨Nat.le_of_lt hEnded.counted,
    hEnded.mapped.allowed hOpen (Nat.le_succ nextId) hEnded.given, ?_, trivial⟩
  -- What is left is the last record. Only a mapping that ended well is recorded as a success.
  cases result with
  | error abort => exact .record answer (by simp [settle, closingStatus])
  | ok done =>
    obtain ⟨headerId, lineCount, hSame⟩ := hEnded.opened keeps
    obtain ⟨header, count, hHeaded, hHeader, hCount⟩ := hEnded.recorded keeps rfl
    have hKind : last.outcome.kindTag = some t.kind.tag := by rw [hSame]; rfl
    have hOwner : last.outcome.clientId = t.clientId := by rw [hSame]; rfl
    exact .success answer ⟨header, count, hHeaded, hHeader, hCount⟩ hKind hOwner

end Attempt

end Intake
