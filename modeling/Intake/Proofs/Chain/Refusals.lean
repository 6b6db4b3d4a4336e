import Intake.Problem
import Intake.Proofs.Chain.Failures
import Mathlib.Control.Monad.Basic

/-! What a chain says of a text that it refuses. However far the text has come, the refusal has the
text that the chain was given, the type that the value was to have, and the name of what failed; it
is reported with the same three. -/

namespace Intake.Chain

/-- What brings a chain to refuse a text, and the name that the refusal puts it down to: the name of
a step as it was written if no operation has it, the operation of a step that fails or may not
follow the rendering before it, or else the name of the last step, if there is one. -/
inductive RefusalCause (c : Context) (raw : String) (chain : Option String) (type : FieldType) :
    Cause → Option String → Prop
  | unknown {done rest : List Step} {step : Step} {flow : Flow}
      (hSteps : steps chain = done ++ step :: rest) (hDone : runSteps c raw done = .ok flow)
      (hName : Operation.ofName? step.name = none) :
      RefusalCause c raw chain type (.unknown step.name) (some step.name)
  | guarded {done rest : List Step} {step : Step} {flow : Flow} {op : Operation}
      {rendering : Rendering} (hSteps : steps chain = done ++ step :: rest)
      (hDone : runSteps c raw done = .ok flow) (hName : Operation.ofName? step.name = some op)
      (hRendered : flow.rendered = some rendering) (hGuard : op.acceptsRendered = false) :
      RefusalCause c raw chain type (.afterRendering op rendering flow.text) (some op.name)
  | operation {done rest : List Step} {step : Step} {flow : Flow} {op : Operation} {cause : Cause}
      (hSteps : steps chain = done ++ step :: rest) (hDone : runSteps c raw done = .ok flow)
      (hName : Operation.ofName? step.name = some op)
      (hFree : flow.rendered = none ∨ op.acceptsRendered)
      (hRun : op.run c flow step.parameter = .error (.cause cause)) :
      RefusalCause c raw chain type cause (some op.name)
  | conversion {text : String} {mismatch : Mismatch} (hApply : apply c raw chain = .ok text)
      (hMismatch : Mismatches c.today text type.present mismatch) :
      RefusalCause c raw chain type (.inconvertible text type.present mismatch)
        ((steps chain).getLast?.map Step.name)

section Refusals

variable {c : Context} {raw : String} {chain : Option String} {type : FieldType}

/-- A chain refuses a text that is not blank if something brings it to, and says what. -/
theorem transform_eq_refused {r : Refusal} :
    transform c raw chain type = .error (.refused r) ↔
      Text.isBlankText raw = false ∧ ∃ cause operation,
        RefusalCause c raw chain type cause operation ∧
          r = ⟨cause, raw, operation, some type.present⟩ := by
  rw [transform_eq_error]
  refine and_congr_right fun _ => ?_
  constructor
  · rintro (⟨done, step, rest, flow, inner, hSteps, hDone, hStep, hInner⟩ | ⟨text, hApply, h⟩)
    · cases hStep with
      | unknown hName =>
        cases hInner
        exact ⟨_, _, .unknown hSteps hDone hName, rfl⟩
      | guarded hName hRendered hGuard =>
        cases hInner
        exact ⟨_, _, .guarded hSteps hDone hName hRendered hGuard, rfl⟩
      | upset hName hFree hRun =>
        cases hInner
        exact ⟨_, _, .operation hSteps hDone hName hFree hRun, rfl⟩
      | fault => cases hInner
    · obtain ⟨mismatch, hMismatch, rfl⟩ := convert_eq_refused.mp h
      rw [FieldType.present_present] at hMismatch ⊢
      exact ⟨_, _, .conversion hApply hMismatch, rfl⟩
  · rintro ⟨cause, operation, hCause, rfl⟩
    cases hCause with
    | unknown hSteps hDone hName =>
      exact .inl ⟨_, _, _, _, _, hSteps, hDone, .unknown hName, rfl⟩
    | guarded hSteps hDone hName hRendered hGuard =>
      exact .inl ⟨_, _, _, _, _, hSteps, hDone, .guarded hName hRendered hGuard, rfl⟩
    | operation hSteps hDone hName hFree hRun =>
      exact .inl ⟨_, _, _, _, _, hSteps, hDone, .upset hName hFree hRun, rfl⟩
    | @conversion text mismatch hApply hMismatch =>
      refine .inr ⟨text, hApply, convert_eq_refused.mpr ⟨mismatch, ?_, ?_⟩⟩
      · rwa [FieldType.present_present]
      · rw [FieldType.present_present]

/-- Only a chain without steps puts a refusal down to nothing. -/
theorem RefusalCause.operation_eq_none {cause : Cause} {operation : Option String}
    (h : RefusalCause c raw chain type cause operation) : operation = none ↔ steps chain = [] := by
  cases h with
  | unknown hSteps | guarded hSteps | operation hSteps => simp [hSteps]
  | conversion => rw [Option.map_eq_none_iff, List.getLast?_eq_none_iff]

/-- The details of a refusal are what it mentions itself. -/
theorem Refusal.problem_details (r : Refusal) : r.problem.details =
    [("raw_value", .text r.rawText), ("operation", Json.ofText? r.operation),
      ("target_type", Json.ofText? r.typeName)] := rfl

end Refusals

end Intake.Chain
