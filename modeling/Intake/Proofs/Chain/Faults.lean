import Intake.Proofs.Chain.Failures

/-! Where a chain comes to a fault. A text that does not fit what a chain does with it is refused; a
fault takes a number that cannot be rounded, or a moment that cannot be told in universal time. -/

namespace Intake.Chain

open Calendar Number

/-- A number that a text denotes cannot be rounded to some places. -/
def CannotRound (text : String) (places : Int) (fault : Fault) : Prop :=
  ∃ d, amount? text.toList = some d ∧ d.round places = .error fault

/-- An operation comes to a fault over a text. -/
def Operation.Faults (c : Context) (op : Operation) (text : String) (parameter : Option String)
    (fault : Fault) : Prop :=
  match op with
  | .integerFormat => CannotRound text 0 fault
  | .currencyFormat => ∃ n, places op parameter c.settings.currencyPlaces = .ok n ∧
      CannotRound text n fault
  | .decimalFormat => ∃ n, places op parameter c.settings.decimalPlaces = .ok n ∧
      CannotRound text n fault
  | .dateFormat | .dateTimeFormat => readDateTime c.today text = .error fault
  | .timeFormat => readClock c.today text = .error fault
  | _ => False

/-- Making a value of a type of a text comes to a fault. -/
def ConversionFaults (today : Date) (text : String) (type : ValueType) (fault : Fault) : Prop :=
  match type with
  | .whole => CannotRound text 0 fault
  | .date | .dateTime => readDateTime today text = .error fault
  | .clock => readClock today text = .error fault
  | _ => False

/-- What brings a chain to a fault over a text: one of its steps, or the conversion at its end. -/
inductive FaultCause (c : Context) (raw : String) (chain : Option String) (type : FieldType)
    (fault : Fault) : Prop
  | step {done rest : List Step} {step : Step} {flow : Flow} {op : Operation} :
      steps chain = done ++ step :: rest → runSteps c raw done = .ok flow →
      Operation.ofName? step.name = some op → op.Faults c flow.text step.parameter fault →
      FaultCause c raw chain type fault
  | conversion {text : String} {single : ValueType} :
      apply c raw chain = .ok text → type.present.present = .single single →
      ConversionFaults c.today text single fault → FaultCause c raw chain type fault

section Operations

variable {c : Context} {op : Operation} {text : String} {parameter : Option String} {fault : Fault}

theorem expecting_eq_fault {α : Type} {expected : Expectation} {x : Except Fault (Option α)} :
    expecting op text expected x = .error (.fault fault) ↔ x = .error fault := by
  rcases x with fault' | (_ | a) <;> simp [expecting]

/-- Places are only ever refused for the parameter that asks for them. -/
theorem places_eq_error {default : Int} {upset : Upset}
    (h : places op parameter default = .error upset) :
    ∃ p, parameter = some p ∧ upset = .cause (.badPlaces op p) := by
  unfold places at h
  split at h
  · cases h
  · rename_i p
    refine ⟨p, rfl, ?_⟩
    split at h
    · split at h <;> cases h
      rfl
    · cases h
      rfl

theorem places_ne_fault {default : Int} :
    places op parameter default ≠ .error (.fault fault) := by
  intro h
  obtain ⟨p, -, hUpset⟩ := places_eq_error h
  cases hUpset

theorem renderNumber_eq_fault {n : Int} :
    renderNumber op text n = .error (.fault fault) ↔ CannotRound text n fault := by
  unfold renderNumber CannotRound
  cases amount? text.toList with
  | none => simp [expecting, bind, Except.bind]
  | some d =>
    cases hRound : d.round n with
    | error fault' => simp [expecting, bind, Except.bind, hRound]
    | ok rounded => simp [expecting, bind, Except.bind, hRound, pure, Except.pure]

theorem Operation.run_eq_fault {flow : Flow} :
    op.run c flow parameter = .error (.fault fault) ↔ op.Faults c flow.text parameter fault := by
  cases op with
  | dateFormat | dateTimeFormat | timeFormat =>
    constructor
    · intro h
      rcases bind_eq_error.mp h with h | ⟨t, -, h⟩
      · exact expecting_eq_fault.mp h
      · cases h
    · intro h
      exact bind_eq_error.mpr (.inl (expecting_eq_fault.mpr h))
  | integerFormat => exact renderNumber_eq_fault
  | currencyFormat | decimalFormat =>
    constructor
    · intro h
      rcases bind_eq_error.mp h with h | ⟨n, hn, h⟩
      · exact absurd h places_ne_fault
      · exact ⟨n, hn, renderNumber_eq_fault.mp h⟩
    · rintro ⟨n, hn, h⟩
      exact bind_eq_error.mpr (.inr ⟨n, hn, renderNumber_eq_fault.mpr h⟩)
  | uppercase | lowercase | trim | removeLeadingZeros => exact iff_of_false nofun id

/-- The operation that may not follow others comes to no fault. -/
theorem Operation.acceptsRendered_of_faults (h : op.Faults c text parameter fault) :
    op.acceptsRendered := by
  cases op with
  | removeLeadingZeros => cases h
  | _ => rfl

end Operations

theorem orMismatch_eq_fault {α : Type} {expected : Expectation} {x : Except Fault (Option α)}
    {fault : Fault} : orMismatch expected x = .error fault ↔ x = .error fault := by
  rcases x with fault' | (_ | a) <;> simp [orMismatch]

theorem valueOf_eq_fault {today : Date} {text : String} {type : ValueType} {fault : Fault} :
    valueOf today text type = .error fault ↔ ConversionFaults today text type fault := by
  cases type with
  | whole =>
    rw [valueOf, ConversionFaults, CannotRound]
    cases amount? text.toList with
    | none => simp
    | some d => simp [map_eq_error]
  | dateTime | date | clock =>
    constructor
    · intro h
      rcases bind_eq_error.mp h with h | ⟨_, _, h⟩
      · exact orMismatch_eq_fault.mp h
      · cases h
    · intro h
      exact bind_eq_error.mpr (.inl (orMismatch_eq_fault.mpr h))
  | truth | decimal | double | documentKind | discovery =>
    refine iff_of_false (fun h => ?_) id
    rw [valueOf] at h
    split at h <;> cases h
  | text | anything | unset | identifier | bytes | nothing => exact iff_of_false nofun id

/-- A chain comes to a fault over a text that is not blank exactly over a number that cannot be
rounded or a moment that cannot be told. -/
theorem transform_eq_fault {c : Context} {raw : String} {chain : Option String} {type : FieldType}
    {fault : Fault} :
    transform c raw chain type = .error (.fault fault) ↔
      Text.isBlankText raw = false ∧ FaultCause c raw chain type fault := by
  rw [transform_eq_error]
  refine and_congr_right fun _ => ?_
  constructor
  · rintro (⟨done, step, rest, flow, inner, hSteps, hDone, hStep, hInner⟩ | ⟨text, hApply, h⟩)
    · cases hStep with
      | fault hName hFree hRun =>
        cases hInner
        exact .step hSteps hDone hName (Operation.run_eq_fault.mp hRun)
      | unknown | guarded | upset => cases hInner
    · obtain ⟨single, hType, hValue⟩ := convert_eq_fault.mp h
      exact .conversion hApply hType (valueOf_eq_fault.mp hValue)
  · rintro (@⟨done, rest, step, flow, op, hSteps, hDone, hName, hFaults⟩ |
      @⟨text, single, hApply, hType, hFaults⟩)
    · refine .inl ⟨done, step, rest, flow, .fault fault, hSteps, hDone, ?_, rfl⟩
      exact .fault hName (.inr (Operation.acceptsRendered_of_faults hFaults))
        (Operation.run_eq_fault.mpr hFaults)
    · exact .inr ⟨text, hApply, convert_eq_fault.mpr ⟨single, hType, valueOf_eq_fault.mpr hFaults⟩⟩

theorem transform_fault {c : Context} {raw : String} {chain : Option String} {type : FieldType}
    {fault : Fault} (h : transform c raw chain type = .error (.fault fault)) :
    FaultCause c raw chain type fault :=
  (transform_eq_fault.mp h).2

end Intake.Chain
