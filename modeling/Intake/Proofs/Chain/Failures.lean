import Intake.Proofs.Results
import Intake.Value.Convert

/-! Where a chain fails: at the first step that fails, behind steps that succeed, or in the
conversion behind the last one. -/

namespace Intake

/-- Nothing is left to take from a type without absence. -/
@[simp] theorem FieldType.present_present (type : FieldType) :
    type.present.present = type.present := by
  cases type with
  | single single => rfl
  | choice types =>
    rcases hTypes : types.filter (· != .nothing) with _ | ⟨first, _ | ⟨second, rest⟩⟩ <;>
      simp [present, hTypes]

namespace Chain

open Calendar

/-- How a step fails over what the steps before it made of `raw`. -/
inductive Step.Fails (c : Context) (raw : String) (flow : Flow) (step : Step) : Failure → Prop
  | unknown (hName : Operation.ofName? step.name = none) :
      Fails c raw flow step (.refused ⟨.unknown step.name, raw, some step.name, none⟩)
  | guarded {op : Operation} {rendering : Rendering}
      (hName : Operation.ofName? step.name = some op) (hRendered : flow.rendered = some rendering)
      (hGuard : op.acceptsRendered = false) :
      Fails c raw flow step
        (.refused ⟨.afterRendering op rendering flow.text, raw, some op.name, none⟩)
  | upset {op : Operation} {cause : Cause} (hName : Operation.ofName? step.name = some op)
      (hFree : flow.rendered = none ∨ op.acceptsRendered)
      (hRun : op.run c flow step.parameter = .error (.cause cause)) :
      Fails c raw flow step (.refused ⟨cause, raw, some op.name, none⟩)
  | fault {op : Operation} {fault : Fault} (hName : Operation.ofName? step.name = some op)
      (hFree : flow.rendered = none ∨ op.acceptsRendered)
      (hRun : op.run c flow step.parameter = .error (.fault fault)) :
      Fails c raw flow step (.fault fault)

section Steps

variable {c : Context} {raw : String} {flow : Flow} {failure : Failure}

theorem Step.run_eq_error {step : Step} :
    step.run c raw flow = .error failure ↔ step.Fails c raw flow failure := by
  constructor
  · intro h
    unfold Step.run at h
    split at h
    · next hName =>
      cases h
      exact .unknown hName
    · next op hName =>
      split at h
      · next rendering hRendered hGuard =>
        cases h
        exact .guarded hName hRendered hGuard
      · next hNot =>
        have hFree : flow.rendered = none ∨ op.acceptsRendered := by
          cases hRendered : flow.rendered with
          | none => exact .inl rfl
          | some rendering => exact .inr (Bool.not_eq_false _ ▸ hNot rendering hRendered)
        split at h
        · cases h
        · next hRun =>
          cases h
          exact .upset hName hFree hRun
        · next hRun =>
          cases h
          exact .fault hName hFree hRun
  · intro h
    unfold Step.run
    cases h with
    | unknown hName => rw [hName]
    | guarded hName hRendered hGuard => simp only [hName, hRendered, hGuard]
    | upset hName hFree hRun => rcases hFree with hFree | hFree <;> simp [hName, hFree, hRun]
    | fault hName hFree hRun => rcases hFree with hFree | hFree <;> simp [hName, hFree, hRun]

/-- Steps fail at the first one that fails. -/
theorem foldlM_eq_error {steps : List Step} :
    steps.foldlM (Step.run c raw) flow = .error failure ↔
      ∃ done step rest flow', steps = done ++ step :: rest ∧
        done.foldlM (Step.run c raw) flow = .ok flow' ∧ step.Fails c raw flow' failure := by
  induction steps generalizing flow with
  | nil =>
    constructor
    · intro h
      cases h
    · rintro ⟨done, step, rest, -, hNil, -⟩
      simp at hNil
  | cons first rest ih =>
    rw [List.foldlM_cons, bind_eq_error]
    constructor
    · rintro (h | ⟨next, hNext, h⟩)
      · exact ⟨[], first, rest, flow, rfl, rfl, Step.run_eq_error.mp h⟩
      · obtain ⟨done, step, later, flow', rfl, hDone, hStep⟩ := ih.mp h
        refine ⟨first :: done, step, later, flow', rfl, ?_, hStep⟩
        rw [List.foldlM_cons, hNext]
        exact hDone
    · rintro ⟨done, step, later, flow', hSteps, hDone, hStep⟩
      cases done with
      | nil =>
        cases hSteps
        cases hDone
        exact .inl (Step.run_eq_error.mpr hStep)
      | cons first' done =>
        cases hSteps
        rw [List.foldlM_cons] at hDone
        obtain ⟨next, hNext, hDone⟩ := bind_eq_ok.mp hDone
        exact .inr ⟨next, hNext, ih.mpr ⟨done, step, later, flow', rfl, hDone, hStep⟩⟩

theorem apply_eq_error {chain : Option String} :
    apply c raw chain = .error failure ↔
      ∃ done step rest flow, steps chain = done ++ step :: rest ∧
        runSteps c raw done = .ok flow ∧ step.Fails c raw flow failure := by
  rw [apply, map_eq_error]
  exact foldlM_eq_error

end Steps

section Conversion

variable {today : Date} {text raw : String} {type : FieldType} {operation : Option String}

theorem convert_eq_ok {v : Value} :
    convert today text type raw operation = .ok v ↔
      ∃ single, type.present = .single single ∧ valueOf today text single = .ok (.ok v) := by
  unfold convert
  cases type.present with
  | choice types => simp
  | single single =>
    rcases hValue : valueOf today text single with fault | (mismatch | value) <;> simp [hValue]

/-- What keeps a text from being a value of a type. -/
def Mismatches (today : Date) (text : String) : FieldType → Mismatch → Prop
  | .single type, mismatch => valueOf today text type = .ok (.error mismatch)
  | .choice _, mismatch => mismatch = .ambiguous

theorem convert_eq_refused {r : Refusal} :
    convert today text type raw operation = .error (.refused r) ↔
      ∃ mismatch, Mismatches today text type.present mismatch ∧
        r = ⟨.inconvertible text type.present mismatch, raw, operation, some type.present⟩ := by
  unfold convert
  cases type.present with
  | choice types => simp [Mismatches, eq_comm]
  | single single =>
    dsimp only [Mismatches]
    rcases valueOf today text single with fault | (mismatch | value)
    · simp
    · simp [eq_comm]
    · simp

theorem convert_eq_fault {fault : Fault} :
    convert today text type raw operation = .error (.fault fault) ↔
      ∃ single, type.present = .single single ∧ valueOf today text single = .error fault := by
  unfold convert
  cases type.present with
  | choice types => simp
  | single single =>
    rcases hValue : valueOf today text single with fault' | (mismatch | value) <;> simp [hValue]

end Conversion

/-- A text that is not blank fails at a step of its chain, or in the conversion behind the last
step. -/
theorem transform_eq_error {c : Context} {raw : String} {chain : Option String} {type : FieldType}
    {failure : Failure} :
    transform c raw chain type = .error failure ↔ Text.isBlankText raw = false ∧
      ((∃ done step rest flow inner, steps chain = done ++ step :: rest ∧
          runSteps c raw done = .ok flow ∧ step.Fails c raw flow inner ∧
          failure = inner.withType type.present) ∨
        ∃ text, apply c raw chain = .ok text ∧
          convert c.today text type.present raw ((steps chain).getLast?.map Step.name) =
            .error failure) := by
  unfold transform
  cases Text.isBlankText raw with
  | true => simp
  | false =>
    rw [if_neg Bool.false_ne_true]
    dsimp only
    cases hApply : apply c raw chain with
    | error inner =>
      dsimp only
      constructor
      · intro h
        obtain ⟨done, step, rest, flow, hSteps, hDone, hStep⟩ := apply_eq_error.mp hApply
        cases h
        exact ⟨rfl, .inl ⟨done, step, rest, flow, inner, hSteps, hDone, hStep, rfl⟩⟩
      · rintro ⟨-, ⟨done, step, rest, flow, inner', hSteps, hDone, hStep, rfl⟩ | ⟨text, hText, -⟩⟩
        · have hSame := apply_eq_error.mpr ⟨done, step, rest, flow, hSteps, hDone, hStep⟩
          rw [hApply] at hSame
          cases hSame
          rfl
        · cases hText
    | ok text =>
      dsimp only
      rw [map_eq_error]
      constructor
      · intro h
        exact ⟨rfl, .inr ⟨text, rfl, h⟩⟩
      · rintro ⟨-, ⟨done, step, rest, flow, inner, hSteps, hDone, hStep, -⟩ | ⟨text', hText, h⟩⟩
        · have hError := apply_eq_error.mpr ⟨done, step, rest, flow, hSteps, hDone, hStep⟩
          rw [hApply] at hError
          cases hError
        · cases hText
          exact h

end Chain

end Intake
