import Intake.Proofs.Calendar.Faults
import Intake.Proofs.Chain.Composition
import Intake.Proofs.Chain.Faults
import Intake.Proofs.Number.Rounding
import Mathlib.Control.Monad.Basic

/-! How a chain ends over a text besides giving a value and refusing the text. It comes to a fault,
and to one of five, over a number that gets too many digits when it is rounded and over a moment
that cannot be told in universal time; a chain that neither renders its value nor makes a whole
number or a moment of it comes to none. -/

namespace Intake.Chain

open Calendar Number

/-- The faults that a chain can come to. -/
def faults : List Fault :=
  [.tooManyDigits, .exponentTooLarge, .outOfRange, .offsetTooLarge, .indivisible]

/-- The types whose values are rounded or told in universal time. -/
def strictTypes : List ValueType := [.whole, .date, .dateTime, .clock]

section Causes

variable {c : Context} {text : String} {fault : Fault}

theorem cannotRound_iff {places : Int} : CannotRound text places fault ↔
    ∃ d, amount? text.toList = some d ∧ d.Unroundable places fault := by
  simp only [CannotRound, Decimal.round_eq_error]

theorem CannotRound.mem_faults {places : Int} (h : CannotRound text places fault) :
    fault ∈ faults := by
  obtain ⟨d, -, h⟩ := cannotRound_iff.mp h
  cases fault with
  | tooManyDigits | exponentTooLarge => decide
  | _ => cases h

theorem mem_faults_of_readDateTime {today : Date} (h : readDateTime today text = .error fault) :
    fault ∈ faults := by
  obtain ⟨-, -, h⟩ := readDateTime_eq_error.mp h
  have hKind := h.kind
  simp only [List.mem_cons, List.not_mem_nil, or_false] at hKind
  rcases hKind with rfl | rfl | rfl <;> decide

theorem mem_faults_of_readClock {today : Date} (h : readClock today text = .error fault) :
    fault ∈ faults :=
  mem_faults_of_readDateTime (readClock_eq_error.mp h).2.2

theorem Operation.Faults.renders {op : Operation} {parameter : Option String}
    (h : op.Faults c text parameter fault) : op.renders ∧ fault ∈ faults := by
  cases op with
  | integerFormat => exact ⟨rfl, CannotRound.mem_faults h⟩
  | currencyFormat | decimalFormat =>
    obtain ⟨n, -, h⟩ := h
    exact ⟨rfl, h.mem_faults⟩
  | dateFormat | dateTimeFormat => exact ⟨rfl, mem_faults_of_readDateTime h⟩
  | timeFormat => exact ⟨rfl, mem_faults_of_readClock h⟩
  | uppercase | lowercase | trim | removeLeadingZeros => cases h

theorem ConversionFaults.isStrict {today : Date} {type : ValueType}
    (h : ConversionFaults today text type fault) : type ∈ strictTypes ∧ fault ∈ faults := by
  cases type with
  | whole => exact ⟨by decide, CannotRound.mem_faults h⟩
  | date | dateTime => exact ⟨by decide, mem_faults_of_readDateTime h⟩
  | clock => exact ⟨by decide, mem_faults_of_readClock h⟩
  | _ => cases h

/-- A fault takes a step that renders the value, or a strict type at the end of the chain. -/
theorem FaultCause.isStrict {raw : String} {chain : Option String} {type : FieldType}
    (h : FaultCause c raw chain type fault) : fault ∈ faults ∧
      ((∃ step ∈ steps chain, ∃ op, Operation.ofName? step.name = some op ∧ op.renders) ∨
        ∃ single ∈ strictTypes, type.present = .single single) := by
  cases h with
  | @step done rest step flow op hSteps _ hName hFaults =>
    obtain ⟨hRenders, hMem⟩ := hFaults.renders
    have hStep : step ∈ steps chain := hSteps ▸ List.mem_append_cons_self
    exact ⟨hMem, .inl ⟨step, hStep, op, hName, hRenders⟩⟩
  | @conversion text single _ hType hFaults =>
    obtain ⟨hStrict, hMem⟩ := hFaults.isStrict
    rw [FieldType.present_present] at hType
    exact ⟨hMem, .inr ⟨single, hStrict, hType⟩⟩

end Causes

/-- When a chain comes to a fault over a text. -/
structure FaultAccount (c : Context) (raw : String) (chain : Option String) (type : FieldType) :
    Prop where
  exactly (fault : Fault) : transform c raw chain type = .error (.fault fault) ↔
    Text.isBlankText raw = false ∧ FaultCause c raw chain type fault
  kinds (fault : Fault) : transform c raw chain type = .error (.fault fault) → fault ∈ faults
  /-- No fault without a rendering or a strict type. -/
  never (fault : Fault) :
    (∀ step ∈ steps chain, ∀ op, Operation.ofName? step.name = some op → op.renders = false) →
    (∀ single ∈ strictTypes, type.present ≠ .single single) →
      transform c raw chain type ≠ .error (.fault fault)
  numbers (text : String) (places : Int) (fault : Fault) : CannotRound text places fault ↔
    ∃ d, amount? text.toList = some d ∧ d.Unroundable places fault
  moments (text : String) (fault : Fault) : readDateTime c.today text = .error fault ↔
    text.isEmpty = false ∧ readLayouts? dateTimeLayouts (Text.trimmed text.toList) = none ∧
      Untellable c.today (Text.trimmed text.toList) fault
  clocks (text : String) (fault : Fault) : readClock c.today text = .error fault ↔
    text.isEmpty = false ∧ readLayouts? clockLayouts (Text.trimmed text.toList) = none ∧
      readDateTime c.today (Text.trim text) = .error fault

end Intake.Chain
