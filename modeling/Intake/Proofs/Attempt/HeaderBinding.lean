import Intake.Proofs.Attempt.Filling
import Intake.Proofs.Attempt.Verdict
import Intake.Proofs.Mapping.HeaderRules

/-! The header of an attempt. Its rules are tried in order on a fresh header. The first required rule
that is refused ends the matter, and so does the check of the header that the rules lead to; nothing
else does. An attempt without a header stores nothing. -/

namespace Intake.Attempt

open Mapping

variable {σ : Type}

/-- Why a rule is refused for the header of an attempt, if it is. -/
def headerRefusal? (t : Task) (rule : Rule) : Option Binding.Refusal :=
  refusal? t.scene t.start t.kind.headerType rule

/-- The fresh header of an attempt with the values of the rules that succeed, in their order. -/
def filledHeader (t : Task) (id : Nat) (rules : List Rule) : Record :=
  (openingHeader t id).filled (fillings t.scene t.start t.kind.headerType headerPath rules)

/-- A trail with an entry for each optional rule that is refused, in their order. -/
def markedTrail (t : Task) (trail : Trail) (rules : List Rule) : Trail :=
  { trail with
    entries := trail.entries ++ optionalEntries t.scene t.start t.kind.headerType rules }

/-- What becomes of the header of an attempt. -/
structure HeaderDecided (t : Task) (trail : Trail) (id : Nat) (rules : List Rule) : Prop where
  fails : (∃ failure trail', boundHeader t trail id rules = (.error failure, trail')) ↔
    (∃ rule ∈ rules, rule.isRequired ∧ (headerRefusal? t rule).isSome) ∨
      (t.checks.header (filledHeader t id rules)).isSome
  /-- The first required rule that is refused; what stands behind it leaves nothing, neither in the
  trail nor in the log. -/
  stopped {done later : List Rule} {rule : Rule} {refusal : Binding.Refusal} :
    rules = done ++ rule :: later →
    (∀ earlier ∈ done, earlier.isRequired → headerRefusal? t earlier = none) →
    rule.isRequired → headerRefusal? t rule = some refusal →
    boundHeader t trail id rules =
      (.error (.binding (.refused refusal)), markedTrail t trail done) ∧
    Mapping.bindHeader t.scene t.checks t.start trail (openingHeader t id) rules =
      Mapping.bindHeader t.scene t.checks t.start trail (openingHeader t id) (done ++ [rule])
  finished : (∀ rule ∈ rules, rule.isRequired → headerRefusal? t rule = none) →
    boundHeader t trail id rules =
      (match t.checks.header (filledHeader t id rules) with
        | some rejection => .error (.rejected rejection)
        | none => .ok (filledHeader t id rules), markedTrail t trail rules)

section Rules

variable {t : Task} {trail : Trail} {id : Nat} {rules : List Rule}

/-- The first required rule that is refused, if there is one, with what stands before and behind it. -/
theorem exists_stopping (h : ∃ rule ∈ rules, rule.isRequired ∧ (headerRefusal? t rule).isSome) :
    ∃ done rule later refusal, rules = done ++ rule :: later ∧
      (∀ earlier ∈ done, earlier.isRequired → headerRefusal? t earlier = none) ∧
      rule.isRequired ∧ headerRefusal? t rule = some refusal := by
  obtain ⟨first, hFirst⟩ : ∃ first,
      rules.find? (fun rule => rule.isRequired && (headerRefusal? t rule).isSome) = some first := by
    rw [← Option.isSome_iff_exists, List.find?_isSome]
    simpa using h
  obtain ⟨hStops, done, later, hSplit, hBefore⟩ := List.find?_eq_some_iff_append.mp hFirst
  obtain ⟨hRequired, hRefused⟩ := Bool.and_eq_true_iff.mp hStops
  obtain ⟨refusal, hRefusal⟩ := Option.isSome_iff_exists.mp hRefused
  refine ⟨done, first, later, refusal, hSplit, fun earlier hEarlier hIs => ?_, hRequired, hRefusal⟩
  simpa [hIs] using hBefore earlier hEarlier

variable (hAnswers : ∀ rule ∈ rules, Answers t.scene t.start t.kind.headerType rule)

include hAnswers

theorem boundHeader_stopped {done later : List Rule} {rule : Rule} {refusal : Binding.Refusal}
    (hSplit : rules = done ++ rule :: later)
    (hDone : ∀ earlier ∈ done, earlier.isRequired → headerRefusal? t earlier = none)
    (hRequired : rule.isRequired) (hRefused : headerRefusal? t rule = some refusal) :
    boundHeader t trail id rules =
      (.error (.binding (.refused refusal)), markedTrail t trail done) := by
  subst hSplit
  have hOpen : (openingHeader t id).type.IsOpen := t.kind.headerType_isOpen
  have hRules : (Mapping.applyHeaderRules t.scene t.start trail (openingHeader t id)
      (done ++ rule :: later)).value = (.error (.refused refusal), markedTrail t trail done) :=
    applyHeaderRules_stopped hOpen later
      (fun earlier hEarlier => hAnswers earlier (List.mem_append_left _ hEarlier)) hDone
      (hAnswers rule (by simp)) hRequired hRefused
  rw [boundHeader, Mapping.bindHeader, Logged.value_bind, ← openingHeader, hRules]
  rfl

theorem bindHeader_hides {done later : List Rule} {rule : Rule} {refusal : Binding.Refusal}
    (hSplit : rules = done ++ rule :: later) (hRequired : rule.isRequired)
    (hRefused : headerRefusal? t rule = some refusal) :
    Mapping.bindHeader t.scene t.checks t.start trail (openingHeader t id) rules =
      Mapping.bindHeader t.scene t.checks t.start trail (openingHeader t id) (done ++ [rule]) := by
  subst hSplit
  have hOpen : (openingHeader t id).type.IsOpen := t.kind.headerType_isOpen
  rw [Mapping.bindHeader, Mapping.bindHeader,
    applyHeaderRules_hides hOpen later (hAnswers rule (by simp)) hRequired hRefused]

theorem boundHeader_finished
    (h : ∀ rule ∈ rules, rule.isRequired → headerRefusal? t rule = none) :
    boundHeader t trail id rules =
      (match t.checks.header (filledHeader t id rules) with
        | some rejection => .error (.rejected rejection)
        | none => .ok (filledHeader t id rules), markedTrail t trail rules) := by
  have hOpen : (openingHeader t id).type.IsOpen := t.kind.headerType_isOpen
  have hRules : (Mapping.applyHeaderRules t.scene t.start trail (openingHeader t id) rules).value =
      (.ok (filledHeader t id rules), markedTrail t trail rules) :=
    applyHeaderRules_finished hOpen hAnswers h
  rw [boundHeader, Mapping.bindHeader, Logged.value_bind, ← openingHeader, hRules]
  cases hCheck : t.checks.header (filledHeader t id rules) <;> simp [hCheck]

/-- The header of an attempt is lost to the first required rule that is refused, or to the check of
what the rules lead to, and to nothing else. -/
theorem headerDecided_of_answers : HeaderDecided t trail id rules where
  fails := by
    by_cases hStops : ∃ rule ∈ rules, rule.isRequired ∧ (headerRefusal? t rule).isSome
    · obtain ⟨done, rule, later, refusal, hSplit, hDone, hRequired, hRefused⟩ :=
        exists_stopping hStops
      rw [boundHeader_stopped hAnswers hSplit hDone hRequired hRefused]
      simp [hStops]
    · have hNone : ∀ rule ∈ rules, rule.isRequired → headerRefusal? t rule = none := by
        simpa using hStops
      rw [boundHeader_finished hAnswers hNone, or_iff_right hStops]
      cases t.checks.header (filledHeader t id rules) <;> simp
  stopped hSplit hDone hRequired hRefused :=
    ⟨boundHeader_stopped hAnswers hSplit hDone hRequired hRefused,
      bindHeader_hides hAnswers hSplit hRequired hRefused⟩
  finished := boundHeader_finished hAnswers

end Rules

section Run

variable {t : Task} {o : Outcome} {trail trail' trail'' : Trail} {id : Nat} {es : List Exchange}
  {headerRules lineRules : List Rule} {failure : HeaderFailure}

/-- The store has answered with these rules. -/
structure Answered (t : Task) (es : List Exchange) (headerRules lineRules : List Rule) : Prop where
  header : .rules t.interfaceId t.kind.headerType.table (.ok (some headerRules)) ∈ es
  line : .rules t.interfaceId t.kind.lineType.table (.ok (some lineRules)) ∈ es

/-- What the store has answered with makes the plan. -/
theorem Prelude.result_eq {result : Except Abort Plan} (h : Prelude t o es result)
    (hAnswered : Answered t es headerRules lineRules) :
    result = .ok (Plan.ofRules headerRules lineRules).value := by
  have hTables := t.kind.tables_ne
  obtain ⟨hHeader, hLine⟩ := hAnswered
  cases h with
  | unrecorded reason => simp at hHeader
  | recorded answer hResolution =>
    cases hResolution with
    | noHeaderRules reason => simp at hHeader
    | noLineRules found reason => simp [hTables.symm] at hLine
    | noAnswer foundHeader foundLine fault hNone =>
      simp [hTables, hTables.symm] at hHeader hLine
      subst hHeader hLine
      simp at hNone
    | planned foundHeader foundLine =>
      simp [hTables, hTables.symm] at hHeader hLine
      rw [hHeader, hLine]

/-- Nothing is handed to the store before a plan is known. -/
theorem Prelude.ask_ne {result : Except Abort Plan} (h : Prelude t o es result) {e : Exchange}
    (hMem : e ∈ es) : e.ask ≠ .saveHeader ∧ e.ask ≠ .saveLines := by
  cases h with
  | unrecorded reason =>
    rw [List.mem_singleton.mp hMem]
    simp [Exchange.ask]
  | recorded answer hResolution =>
    rcases List.mem_cons.mp hMem with rfl | hMem
    · simp [Exchange.ask]
    · obtain ⟨_, _, _, rfl⟩ := hResolution.mem_rules e hMem
      simp [Exchange.ask]

/-- A header that cannot be made ends the mapping, and nothing is handed to the store. -/
theorem Mapped.header_failed {result : Except Abort Unit}
    (h : Mapped t o trail id es result trail') (hAnswered : Answered t es headerRules lineRules)
    (hFails : boundHeader t trail id (Plan.headerRulesOf headerRules) = (.error failure, trail'')) :
    result = .error (.ofHeader failure) ∧ trail' = trail'' ∧
      ∀ e ∈ es, e.ask ≠ .saveHeader ∧ e.ask ≠ .saveLines := by
  cases h with
  | unplanned hPrelude => cases hPrelude.result_eq hAnswered
  | @planned plan es es' _ _ hPrelude hCompletion =>
    -- The rules are known before the header is made, so their answers belong to the prelude.
    have hEarly : Answered t es headerRules lineRules :=
      ⟨(List.mem_append.mp hAnswered.header).resolve_right (hCompletion.rules_notMem _ _ _),
        (List.mem_append.mp hAnswered.line).resolve_right (hCompletion.rules_notMem _ _ _)⟩
    have hPlan := Except.ok.inj (hPrelude.result_eq hEarly)
    have hSame : plan.headerRules = Plan.headerRulesOf headerRules := by
      rw [hPlan]
      rfl
    rw [← hSame] at hFails
    cases hCompletion with
    | headerFailed hBound =>
      rw [hFails] at hBound
      cases hBound
      refine ⟨rfl, rfl, fun e hMem => ?_⟩
      rw [List.append_nil] at hMem
      exact hPrelude.ask_ne hMem
    | headerUnsaved hBound => cases hFails.symm.trans hBound
    | linesFailed hBound => cases hFails.symm.trans hBound
    | noLines hBound => cases hFails.symm.trans hBound
    | linesSaved answer' hBound => cases hFails.symm.trans hBound

end Run

/-- The header of an attempt is decided by the required rules that are refused and by its check, and
an attempt that has none hands nothing to the store, whatever the store answers. -/
theorem header_decided (t : Task) :
    (∀ (trail : Trail) (id : Nat) (rules : List Rule),
      (∀ rule ∈ rules, Answers t.scene t.start t.kind.headerType rule) →
        HeaderDecided t trail id rules) ∧
    ∀ (repo : Repository σ) (store : σ) (nextId : Nat) (log : List Log.Entry)
      (headerRules lineRules : List Rule) (failure : HeaderFailure) (trail : Trail),
      Answered t (exchanges repo t store nextId log) headerRules lineRules →
      boundHeader t ⟨t.settings.trailLength, []⟩ (nextId + 1) (Plan.headerRulesOf headerRules) =
        (.error failure, trail) →
      mapResult repo t store nextId log = .error (.ofHeader failure) ∧
      ∀ e ∈ exchanges repo t store nextId log, e.ask ≠ .saveHeader ∧ e.ask ≠ .saveLines := by
  refine ⟨fun trail id rules hAnswers => headerDecided_of_answers hAnswers, ?_⟩
  intro repo store nextId log headerRules lineRules failure trail hAnswered hFails
  obtain ⟨before, result, trail', closing, answer, hExchanges, hMapped, hResult, -⟩ :=
    run_traced repo t store nextId log
  rw [hExchanges] at hAnswered ⊢
  have hBefore : Answered t before headerRules lineRules :=
    ⟨by simpa using hAnswered.header, by simpa using hAnswered.line⟩
  obtain ⟨hEnds, -, hNone⟩ := hMapped.header_failed hBefore hFails
  refine ⟨hResult.trans hEnds, fun e hMem => ?_⟩
  rcases List.mem_append.mp hMem with hMem | hMem
  · exact hNone e hMem
  · rw [List.mem_singleton.mp hMem]
    simp [Exchange.ask]

deriving instance DecidableEq for Exchange

/-- A required rule for something that items do not have. -/
def goneRule : Rule := { numberRule with sourcePath := some "Item/Price", isRequired := true }

/-- The second rule fills the header, the third one ends it, and the fourth one is not tried; the only
entry in the trail is that of the first one. An attempt whose only rule is the third one ends with the
header and stores nothing. -/
theorem header_decided_goneRule :
    let repo := Memory.repository fun _ _ _ => none
    let rules := [strayRule, numberRule, goneRule, strayRule]
    let store : Memory := { rules := [(none, goneRule)] }
    let t := orderOf "2"
    let refusal : Binding.Refusal := ⟨"OrderHeader", "order_number", goneRule, .missingValue⟩
    let trail : Trail := ⟨1000, ["Header mapping error for Item: OrderHeader has no field 'colour'"]⟩
    (∀ rule ∈ rules, Answers t.scene t.start t.kind.headerType rule) ∧
      (∃ failure trail', boundHeader t ⟨1000, []⟩ 2 rules = (.error failure, trail')) ∧
      boundHeader t ⟨1000, []⟩ 2 rules = (.error (.binding (.refused refusal)), trail) ∧
      Answered t (exchanges repo t store 1 []) [goneRule] [] ∧
      boundHeader t ⟨1000, []⟩ 2 (Plan.headerRulesOf [goneRule]) =
        (.error (.binding (.refused refusal)), ⟨1000, []⟩) ∧
      mapResult repo t store 1 [] = .error (.header refusal) ∧
      ∀ e ∈ exchanges repo t store 1 [], e.ask ≠ .saveHeader ∧ e.ask ≠ .saveLines := by
  intro repo rules store t refusal trail
  -- One evaluation for all of these, so that the document is read once.
  obtain ⟨hAll, hFirst, hRefused, hTrail, hHeaderRules, hLineRules⟩ :
      (∀ rule ∈ rules, failure? t.scene t.start t.kind.headerType rule =
        (refusal? t.scene t.start t.kind.headerType rule).map .refused) ∧
      (∀ rule ∈ [strayRule, numberRule], rule.isRequired → headerRefusal? t rule = none) ∧
      headerRefusal? t goneRule = some refusal ∧
      markedTrail t ⟨1000, []⟩ [strayRule, numberRule] = trail ∧
      .rules t.interfaceId t.kind.headerType.table (.ok (some [goneRule])) ∈
        exchanges repo t store 1 [] ∧
      .rules t.interfaceId t.kind.lineType.table (.ok (some [])) ∈ exchanges repo t store 1 [] := by
    decide +kernel
  have hAnswers : ∀ rule ∈ rules, Answers t.scene t.start t.kind.headerType rule := fun rule hMem =>
    answers_iff.mpr (hAll rule hMem)
  obtain ⟨hDecided, hRun⟩ := header_decided (σ := Memory) t
  have hHeader := hDecided ⟨1000, []⟩ 2 rules hAnswers
  have hSplit : rules = [strayRule, numberRule] ++ goneRule :: [strayRule] := rfl
  obtain ⟨hBound, -⟩ := hHeader.stopped hSplit hFirst rfl hRefused
  rw [hTrail] at hBound
  have hPlan : Plan.headerRulesOf [goneRule] = [goneRule] := by decide +kernel
  have hAlone : boundHeader t ⟨1000, []⟩ 2 (Plan.headerRulesOf [goneRule]) =
      (.error (.binding (.refused refusal)), ⟨1000, []⟩) := by
    have hOnly := hDecided ⟨1000, []⟩ 2 [goneRule]
      fun rule hMem => hAnswers rule (by rw [List.mem_singleton.mp hMem]; simp [rules])
    rw [hPlan]
    have hAtOnce : [goneRule] = [] ++ goneRule :: [] := rfl
    exact (hOnly.stopped hAtOnce (by simp) rfl hRefused).1
  have hAnswered : Answered t (exchanges repo t store 1 []) [goneRule] [] := ⟨hHeaderRules, hLineRules⟩
  obtain ⟨hEnds, hNone⟩ := hRun repo store 1 [] [goneRule] [] _ _ hAnswered hAlone
  have hRequired : ∃ rule ∈ rules, rule.isRequired ∧ (headerRefusal? t rule).isSome :=
    ⟨goneRule, by simp [rules], rfl, by rw [hRefused]; rfl⟩
  exact ⟨hAnswers, hHeader.fails.mpr (.inl hRequired), hBound, hAnswered, hAlone, hEnds, hNone⟩

end Intake.Attempt
