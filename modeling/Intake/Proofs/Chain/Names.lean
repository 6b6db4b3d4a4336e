import Intake.Proofs.Chain.Composition
import Intake.Proofs.Chain.Faults
import Intake.Proofs.Text.Small

/-! The names that the steps of a chain call. A step keeps its name in small letters, without blanks
and without a colon, so the check of that name reads it as the step does. It lets two sorts of name
pass: those of operations, and the idle ones, which no operation has. An idle name alone is no step;
one with a colon behind it is. -/

namespace Intake.Chain

variable {step : Step} {chain : List Char} {name : String}

/-- No operation has an idle name. -/
theorem ofName?_of_idle (h : name ∈ idleNames) : Operation.ofName? name = none := by
  revert name
  decide

theorem Step.ofChars_name (piece : List Char) :
    (Step.ofChars piece).name =
      String.ofList (Text.lowered (Text.trimmed (Text.cut ':' piece).1)) := rfl

/-- Reading the name of a step once more changes nothing. -/
theorem Step.lowered_trimmed_name (h : step ∈ stepsOf chain) :
    Text.lowered (Text.trimmed step.name.toList) = step.name.toList := by
  obtain ⟨piece, -, rfl⟩ := List.mem_map.mp h
  rw [Step.ofChars_name, String.toList_ofList, Text.trimmed_lowered_trimmed, Text.lowered_lowered]

theorem Step.colon_not_mem_name (h : step ∈ stepsOf chain) : ':' ∉ step.name.toList := by
  obtain ⟨piece, -, rfl⟩ := List.mem_map.mp h
  rw [Step.ofChars_name, String.toList_ofList]
  intro hColon
  rcases (Text.mem_loweredFrom hColon).2 with hHere | hSettled
  · exact Text.not_mem_cut (Text.mem_of_mem_trimmed hHere)
  · exact hSettled.notColon rfl

/-- The check of names lets the name of a step pass if an operation has it or if it is idle. -/
theorem Step.isSupported_name (h : step ∈ stepsOf chain) :
    isSupported step.name =
      (idleNames.contains step.name || (Operation.ofName? step.name).isSome) := by
  rw [isSupported, Step.lowered_trimmed_name h, Text.cut_of_not_mem (Step.colon_not_mem_name h)]
  simp

/-- A step with an idle name is written with a colon behind the name. -/
theorem Step.colon_of_idle (h : step ∈ stepsOf chain) (hIdle : step.name ∈ idleNames) :
    ∃ piece ∈ Text.pieces '|' chain, ':' ∈ piece ∧
      (Step.ofChars (Text.trimmed piece)).name = step.name := by
  obtain ⟨token, hToken, rfl⟩ := List.mem_map.mp h
  obtain ⟨hToken, hBusy⟩ := List.mem_filter.mp hToken
  obtain ⟨piece, hPiece, rfl⟩ := List.mem_map.mp hToken
  -- Without a colon the name is the whole piece, and an idle piece is not kept as a step.
  refine ⟨piece, hPiece, Decidable.byContradiction fun hColon => ?_, rfl⟩
  have hCut : Text.cut ':' (Text.trimmed piece) = (Text.trimmed piece, none) :=
    Text.cut_of_not_mem fun hMem => hColon (Text.mem_of_mem_trimmed hMem)
  have hSame : Text.trimmed (Text.trimmed piece) = Text.trimmed piece :=
    Text.trimmed_eq_self (fun _ => Text.head?_trimmed) (fun _ => Text.getLast?_trimmed)
  rw [Step.ofChars_name, hCut, hSame] at hIdle
  simp [isIdle, hIdle] at hBusy

section Apply

variable {c : Context} {raw : String} {op : Operation} {text : String} {parameter : Option String}

theorem expecting_ne_unknown {α : Type} {expected : Expectation} {x : Except Fault (Option α)} :
    expecting op text expected x ≠ .error (.cause (.unknown name)) := by
  rcases x with fault | (_ | a) <;> exact nofun

theorem places_ne_unknown {default : Int} :
    places op parameter default ≠ .error (.cause (.unknown name)) := by
  intro h
  obtain ⟨p, -, hUpset⟩ := places_eq_error h
  cases hUpset

theorem renderNumber_ne_unknown {n : Int} :
    renderNumber op text n ≠ .error (.cause (.unknown name)) := by
  intro h
  rcases bind_eq_error.mp h with h | ⟨number, -, h⟩
  · exact expecting_ne_unknown h
  · split at h <;> cases h

/-- No operation complains of an unknown name. -/
theorem Operation.run_ne_unknown {flow : Flow} :
    op.run c flow parameter ≠ .error (.cause (.unknown name)) := by
  intro h
  cases op with
  | uppercase | lowercase | trim | removeLeadingZeros => cases h
  | dateFormat | timeFormat | dateTimeFormat =>
    rcases bind_eq_error.mp h with h | ⟨t, -, h⟩
    · exact expecting_ne_unknown h
    · cases h
  | integerFormat => exact renderNumber_ne_unknown h
  | currencyFormat | decimalFormat =>
    rcases bind_eq_error.mp h with h | ⟨n, -, h⟩
    · exact places_ne_unknown h
    · exact renderNumber_ne_unknown h

/-- A chain is refused for an unknown name only if one of its steps has the name, and no operation
does. -/
theorem apply_unknown {chain : Option String} {r : Refusal}
    (h : apply c raw chain = .error (.refused r)) (hCause : r.cause = .unknown name) :
    ∃ step ∈ steps chain, step.name = name ∧ Operation.ofName? name = none := by
  obtain ⟨done, step, rest, flow, hSteps, -, hStep⟩ := apply_eq_error.mp h
  refine ⟨step, hSteps ▸ List.mem_append_cons_self, ?_⟩
  cases hStep with
  | unknown hName =>
    cases hCause
    exact ⟨rfl, hName⟩
  | guarded => cases hCause
  | upset hName hFree hRun =>
    cases hCause
    exact absurd hRun Operation.run_ne_unknown

theorem ofName?_of_foldlM {steps : List Step} {flow flow' : Flow}
    (h : steps.foldlM (Step.run c raw) flow = .ok flow') :
    ∀ step ∈ steps, ∃ op, Operation.ofName? step.name = some op := by
  induction steps generalizing flow with
  | nil => exact fun _ hMem => nomatch hMem
  | cons first rest ih =>
    rw [List.foldlM_cons] at h
    obtain ⟨next, hNext, hRest⟩ := bind_eq_ok.mp h
    obtain ⟨op, hOp, -⟩ := Step.run_eq_ok.mp hNext
    exact List.forall_mem_cons.mpr ⟨⟨op, hOp⟩, ih hRest⟩

/-- Every step of a chain that ends with a text has the name of an operation. -/
theorem ofName?_of_apply {chain : Option String} {t : String} (h : apply c raw chain = .ok t) :
    ∀ step ∈ steps chain, ∃ op, Operation.ofName? step.name = some op := by
  obtain ⟨flow, hFlow, -⟩ := map_eq_ok.mp h
  exact ofName?_of_foldlM hFlow

end Apply

end Intake.Chain
