import Intake.Proofs.Attempt.Lines
import Intake.Proofs.Attempt.Protocol
import Intake.Proofs.Mapping.Header

/-! How far the failure of a rule reaches. In an attempt whose calls all succeed, a header rule that is
refused costs the header its field, and a line that is refused costs the attempt that line; the attempt
goes on. It is given up only for a required rule of the header, for the check of the header, for a
fault, or if every line fails. -/

namespace Intake.Attempt

open Mapping

variable {σ : Type}

/-- The header from which the rules of an attempt start. -/
def openingHeader (t : Task) (id : Nat) : Record :=
  Record.freshHeader t.settings t.now t.kind id t.clientId

/-- A header that all its rules have been tried on, with the entries they left, and that the store gave
back as `saved`. -/
structure HeaderMapped (t : Task) (id : Nat) (rules : List Rule) (entries : List String)
    (header saved : Record) (es : List Exchange) : Prop where
  course : HeaderCourse t.scene t.start (openingHeader t id) rules entries header
  passed : t.checks.header header = none
  saved : .saveHeader header (.ok (some saved)) ∈ es

/-- What a mapping comes to whose calls all succeed, and the trail that it leaves. Every other way to
its end leads past all rules, and every line that is bound is handed to the store. -/
inductive Isolated (t : Task) (id : Nat) (plan : Plan) (es : List Exchange) :
    Except Abort Unit → Trail → Prop
  | headerStopped {failure : HeaderFailure} {entries : List String} :
      HeaderStop t.scene t.checks t.start (openingHeader t id) plan.headerRules failure entries →
      Isolated t id plan es (.error (.ofHeader failure)) ⟨t.settings.trailLength, entries⟩
  | lineFault {entries : List String} {header saved : Record} {group : LineGroup} {fault : Fault}
      {trail : Trail} :
      HeaderMapped t id plan.headerRules entries header saved es → group ∈ plan.groups →
      LineFaultCause t.scene t.start group fault →
      Isolated t id plan es (.error (.fault fault)) trail
  | allFailed {entries : List String} {header saved : Record} {turns : List Turn}
      {tally : Tally} :
      HeaderMapped t id plan.headerRules entries header saved es →
      LinesAccounted t ⟨t.settings.trailLength, entries⟩ (id + 1) saved plan.groups turns tally →
      tally.lines = [] → 0 < tally.failed →
      Isolated t id plan es (.error (.noLines tally.failed)) tally.trail
  | completed {entries : List String} {header saved : Record} {turns : List Turn}
      {tally : Tally} :
      HeaderMapped t id plan.headerRules entries header saved es →
      LinesAccounted t ⟨t.settings.trailLength, entries⟩ (id + 1) saved plan.groups turns tally →
      (tally.lines = [] → tally.failed = 0) →
      (tally.lines ≠ [] → .saveLines tally.lines (.ok ()) ∈ es) →
      Isolated t id plan es (.ok ()) tally.trail

section Steps

variable {t : Task} {o : Outcome} {plan : Plan} {trail' : Trail} {id : Nat} {es : List Exchange}

theorem Resolution.exists_plan {result : Except Abort Plan} (h : Resolution t es result)
    (hAll : ∀ e ∈ es, e.succeeded) : ∃ plan, result = .ok plan := by
  cases h with
  | noHeaderRules reason => simp [Exchange.succeeded, Except.toOption] at hAll
  | noLineRules headerRules reason => simp [Exchange.succeeded, Except.toOption] at hAll
  | noAnswer headerRules lineRules fault hNone =>
    rcases hNone with rfl | rfl <;> simp [Exchange.succeeded, Except.toOption] at hAll
  | planned headerRules lineRules => exact ⟨_, rfl⟩

/-- There is a plan unless a call fails. -/
theorem Prelude.exists_plan {result : Except Abort Plan} (h : Prelude t o es result)
    (hAll : ∀ e ∈ es, e.succeeded) : ∃ plan, result = .ok plan := by
  cases h with
  | unrecorded reason => simp [Exchange.succeeded, Except.isOk, Except.toBool] at hAll
  | recorded answer hResolution =>
    exact hResolution.exists_plan fun e hMem => hAll e (List.mem_cons_of_mem _ hMem)

theorem exists_savedHeader {answer : Except String (Option Record)} {header : Record}
    (h : (Exchange.saveHeader header answer).succeeded) :
    ∃ saved, savedHeader answer = .ok saved := by
  match answer, h with
  | .ok (some saved), h =>
    have hId : saved.id?.isSome := by simpa [Exchange.succeeded, Except.toOption] using h
    exact ⟨saved, if_pos hId⟩

/-- A header that is mapped and stored comes of all rules. -/
theorem HeaderMapped.of_saved {header saved : Record} {rules : List Rule}
    {answer : Except String (Option Record)}
    (hBound : boundHeader t ⟨t.settings.trailLength, []⟩ id rules = (.ok header, trail'))
    (hSaved : savedHeader answer = .ok saved) (hMem : .saveHeader header answer ∈ es) :
    ∃ entries, HeaderMapped t id rules entries header saved es ∧
      trail' = ⟨t.settings.trailLength, entries⟩ := by
  obtain ⟨entries, hCourse, hCheck, hTrail⟩ := bindHeader_ok hBound
  obtain ⟨rfl, -⟩ := savedHeader_eq_ok hSaved
  exact ⟨entries, ⟨hCourse, hCheck, hMem⟩, by simpa using hTrail⟩

theorem boundHeader_error {failure : HeaderFailure} {rules : List Rule}
    (h : boundHeader t ⟨t.settings.trailLength, []⟩ id rules = (.error failure, trail')) :
    ∃ entries, HeaderStop t.scene t.checks t.start (openingHeader t id) rules failure entries ∧
      trail' = ⟨t.settings.trailLength, entries⟩ := by
  obtain ⟨entries, hStop, hTrail⟩ := bindHeader_error t.kind.headerType_isOpen h
  exact ⟨entries, hStop, by simpa using hTrail⟩

/-- Lines that go on to the store, if there are any, are accounted for. -/
theorem keptLines_ok {trail : Trail} {header : Record} {groups : List LineGroup}
    {lines : List Record} (h : keptLines (boundLines t trail id header groups) = .ok lines) :
    ∃ turns, LinesAccounted t trail id header groups turns
        (boundLines t trail id header groups).2 ∧
      (boundLines t trail id header groups).2.lines = lines ∧
      (lines = [] → (boundLines t trail id header groups).2.failed = 0) := by
  obtain ⟨hBound, hLines, hNone⟩ := keptLines_eq_ok h
  obtain ⟨turns, hAccounts⟩ := bindGroups_accounts Accounts.start (Prod.ext hBound rfl)
  exact ⟨turns, .of_accounts hAccounts, hLines, hNone⟩

/-- Lines that do not go on come to a fault, or all fail. -/
theorem keptLines_error {trail : Trail} {header : Record} {groups : List LineGroup} {abort : Abort}
    (h : keptLines (boundLines t trail id header groups) = .error abort) :
    (∃ group ∈ groups, ∃ fault, LineFaultCause t.scene t.start group fault ∧
      abort = .fault fault) ∨
    ∃ turns, LinesAccounted t trail id header groups turns
        (boundLines t trail id header groups).2 ∧
      (boundLines t trail id header groups).2.lines = [] ∧
      0 < (boundLines t trail id header groups).2.failed ∧
      abort = .noLines (boundLines t trail id header groups).2.failed := by
  rcases hBound : boundLines t trail id header groups with ⟨failure | done, tally⟩
  · rw [hBound] at h
    cases h
    obtain ⟨fault, rfl, group, hGroup, hCause⟩ :=
      bindGroups_error (fun _ _ => t.kind.lineType_isOpen) hBound
    exact .inl ⟨group, hGroup, fault, hCause, rfl⟩
  · obtain ⟨turns, hAccounts⟩ := bindGroups_accounts Accounts.start hBound
    rw [hBound, keptLines] at h
    split at h
    · rename_i hFailed
      cases h
      obtain ⟨hNil, hSome⟩ : tally.lines = [] ∧ tally.failed ≠ 0 := by simpa using hFailed
      exact .inr ⟨turns, .of_accounts hAccounts, hNil, Nat.pos_of_ne_zero hSome, rfl⟩
    · cases h

/-- With a plan, and calls that all succeed, a rule that is refused does not end the mapping. -/
theorem Completion.isolated {result : Except Abort Unit}
    (h : Completion t plan ⟨t.settings.trailLength, []⟩ id es result trail')
    (hAll : ∀ e ∈ es, e.succeeded) : Isolated t id plan es result trail' := by
  cases h with
  | headerFailed hBound =>
    obtain ⟨entries, hStop, rfl⟩ := boundHeader_error hBound
    exact .headerStopped hStop
  | @headerUnsaved header _ answer abort hBound hSaved =>
    obtain ⟨saved, hOk⟩ := exists_savedHeader (hAll (.saveHeader header answer) (by simp))
    rw [hOk] at hSaved
    cases hSaved
  | linesFailed hBound hSaved hKept =>
    obtain ⟨entries, hMapped, rfl⟩ := HeaderMapped.of_saved hBound hSaved List.mem_cons_self
    rcases keptLines_error hKept with
      ⟨group, hGroup, fault, hCause, rfl⟩ | ⟨turns, hAccounted, hNil, hFailed, rfl⟩
    · exact .lineFault hMapped hGroup hCause
    · exact .allFailed hMapped hAccounted hNil hFailed
  | noLines hBound hSaved hKept =>
    obtain ⟨entries, hMapped, rfl⟩ := HeaderMapped.of_saved hBound hSaved List.mem_cons_self
    obtain ⟨turns, hAccounted, hNil, hNone⟩ := keptLines_ok hKept
    exact .completed hMapped hAccounted (fun _ => hNone rfl) (absurd hNil)
  | @linesSaved header saved trail' answer lines answer' hBound hSaved hKept hLines =>
    have hAnswer := hAll (.saveLines lines answer') (by simp)
    have hHeader : Exchange.saveHeader header answer ∈
        [.saveHeader header answer, .saveLines lines answer'] := List.mem_cons_self
    obtain ⟨entries, hMapped, rfl⟩ := HeaderMapped.of_saved hBound hSaved hHeader
    obtain ⟨turns, hAccounted, rfl, hNone⟩ := keptLines_ok hKept
    cases answer' with
    | error reason => cases hAnswer
    | ok _ => exact .completed hMapped hAccounted hNone fun _ => by simp

end Steps

theorem HeaderMapped.mono {t : Task} {id : Nat} {rules : List Rule} {entries : List String}
    {header saved : Record} {es es' : List Exchange}
    (h : HeaderMapped t id rules entries header saved es) (hSub : es ⊆ es') :
    HeaderMapped t id rules entries header saved es' :=
  ⟨h.course, h.passed, hSub h.saved⟩

theorem Isolated.mono {t : Task} {id : Nat} {plan : Plan} {es es' : List Exchange}
    {result : Except Abort Unit} {trail : Trail} (h : Isolated t id plan es result trail)
    (hSub : es ⊆ es') : Isolated t id plan es' result trail := by
  cases h with
  | headerStopped hStop => exact .headerStopped hStop
  | lineFault hMapped hGroup hCause => exact .lineFault (hMapped.mono hSub) hGroup hCause
  | allFailed hMapped hAccounted hNil hFailed =>
    exact .allFailed (hMapped.mono hSub) hAccounted hNil hFailed
  | completed hMapped hAccounted hNone hSaved =>
    exact .completed (hMapped.mono hSub) hAccounted hNone fun hSome => hSub (hSaved hSome)

/-- What the mapping of a document comes to. -/
def mapResult (repo : Repository σ) (t : Task) (store : σ) (nextId : Nat) (log : List Log.Entry) :
    Except Abort Unit :=
  (exec (map repo t) ((start t store nextId log).announced t)).1

/-- In an attempt whose calls all succeed, a rule that is refused ends the attempt only if it is a
required rule of the header, or if it leaves no line to an attempt that has some. -/
theorem map_isolated (repo : Repository σ) (t : Task) (store : σ) (nextId : Nat)
    (log : List Log.Entry) (h : ∀ e ∈ exchanges repo t store nextId log, e.succeeded) :
    ∃ headerRules lineRules before trail closing answer,
      exchanges repo t store nextId log = before ++ [.record closing answer] ∧
      .rules t.interfaceId t.kind.headerType.table (.ok (some headerRules)) ∈ before ∧
      .rules t.interfaceId t.kind.lineType.table (.ok (some lineRules)) ∈ before ∧
      Isolated t (nextId + 1) (Plan.ofRules headerRules lineRules).value before
        (mapResult repo t store nextId log) trail ∧
      closing.status = closingStatus (mapResult repo t store nextId log) ∧
      closing.message = (closingTrail trail (mapResult repo t store nextId log)).render := by
  obtain ⟨before, result, trail, closing, answer, hExchanges, hMapped, hResult, hStatus, hMessage,
    -⟩ := run_traced repo t store nextId log
  have hResult : mapResult repo t store nextId log = result := hResult
  rw [hResult]
  have hAll : ∀ e ∈ before, e.succeeded := fun e hMem => h e (by simp [hExchanges, hMem])
  cases hMapped with
  | unplanned hPrelude =>
    obtain ⟨plan, hPlan⟩ := hPrelude.exists_plan hAll
    cases hPlan
  | planned hPrelude hCompletion =>
    obtain ⟨headerRules, lineRules, rfl, hHeaderRules, hLineRules⟩ := hPrelude.planned_rules
    have hIsolated := hCompletion.isolated fun e hMem => hAll e (List.mem_append_right _ hMem)
    exact ⟨headerRules, lineRules, _, trail, closing, answer, hExchanges,
      List.mem_append_left _ hHeaderRules, List.mem_append_left _ hLineRules,
      hIsolated.mono (List.subset_append_right _ _), hStatus, hMessage⟩

/-- An order with one item of a quantity. -/
def orderOf (quantity : String) : Task where
  kind := .order
  settings := {}
  now := default
  document := .ofParts ⟨[], ⟨⟨none, none, "Order"⟩, [], []⟩,
    [.element ⟨⟨none, none, "Item"⟩, [], []⟩
      [.element ⟨⟨none, none, "Qty"⟩, [], []⟩ [.text quantity]]], []⟩

/-- A header rule for a field that there is not. -/
def strayRule : Rule where
  name := ""
  targetField := "colour"
  tableName := DocumentKind.order.headerType.table
  sourcePath := some "Item"

/-- A rule for the quantity of an item. -/
def quantityRule : Rule where
  name := ""
  targetField := "quantity"
  tableName := DocumentKind.order.lineType.table
  sourcePath := some "Item/Qty"

/-- The header rule is refused, and the order is stored with its line all the same. -/
theorem map_isolated_strayRule :
    let repo := Memory.repository fun _ _ _ => none
    let store : Memory := { rules := [(none, strayRule), (none, quantityRule)] }
    let t := orderOf "2"
    (∀ e ∈ exchanges repo t store 1 [], e.succeeded) ∧
      (∃ headerRules lineRules before trail closing answer,
        exchanges repo t store 1 [] = before ++ [.record closing answer] ∧
        .rules t.interfaceId t.kind.headerType.table (.ok (some headerRules)) ∈ before ∧
        .rules t.interfaceId t.kind.lineType.table (.ok (some lineRules)) ∈ before ∧
        Isolated t 2 (Plan.ofRules headerRules lineRules).value before
          (mapResult repo t store 1 []) trail ∧
        closing.status = closingStatus (mapResult repo t store 1 []) ∧
        closing.message = (closingTrail trail (mapResult repo t store 1 [])).render) ∧
      mapResult repo t store 1 [] = .ok () := by
  intro repo store t
  have hAll : ∀ e ∈ exchanges repo t store 1 [], e.succeeded := by decide +kernel
  exact ⟨hAll, map_isolated repo t store 1 [] hAll, eq_ok_of_isOk (by decide +kernel)⟩

/-- A line rule that is refused leaves no line to an order of one item, and so ends the attempt; and so
does one that meets a number with more digits than can be reckoned with. -/
theorem abort?_onlyLine :
    let repo := Memory.repository fun _ _ _ => none
    let store : Memory := { rules := [(none, quantityRule)] }
    ((∀ e ∈ exchanges repo (orderOf "x") store 1 [], e.succeeded) ∧
      abort? repo (orderOf "x") store 1 [] = some (.noLines 1)) ∧
    (∀ e ∈ exchanges repo (orderOf "100000000000000000000000000000") store 1 [], e.succeeded) ∧
      abort? repo (orderOf "100000000000000000000000000000") store 1 [] =
        some (.fault .tooManyDigits) := by
  decide +kernel

end Intake.Attempt
