import Intake.Calendar.Format
import Intake.Calendar.Written
import Intake.Chain.Error
import Intake.Chain.Step
import Intake.Number.Reader
import Intake.Number.Rounding
import Intake.Settings.Mapping

/-! Running a transformation chain. The steps are taken from the left; each works on the text that
the one before it gave. Formatting a date, a time or a number renders the value, and stripping
zeros is refused from then on, because it would damage what was rendered. -/

namespace Intake.Chain

/-- The text that flows through a chain, and how it was rendered last. -/
structure Flow where
  text : String
  rendered : Option Rendering
  deriving DecidableEq, Repr

/-- What an operation depends on besides its text and parameter. -/
structure Context where
  settings : MappingSettings
  today : Calendar.Date
  deriving DecidableEq, Repr

/-- What an operation itself finds wrong. -/
inductive Upset where
  | cause (cause : Cause)
  | fault (fault : Fault)
  deriving DecidableEq, Repr

/-- A text without the zeros at its beginning; a single zero if nothing else is left. -/
def withoutLeadingZeros (s : String) : String :=
  match s.toList.dropWhile (· == '0') with
  | [] => "0"
  | rest => String.ofList rest

/-- The value found in a text, or the complaint that there is none. -/
def expecting {α : Type} (op : Operation) (text : String) (expected : Expectation) :
    Except Fault (Option α) → Except Upset α
  | .ok (some a) => .ok a
  | .ok none => .error (.cause (.unexpected op text expected))
  | .error fault => .error (.fault fault)

/-- A number rendered with the given places. -/
def renderNumber (op : Operation) (text : String) (places : Int) : Except Upset Flow := do
  let number ← expecting op text .number (.ok (Number.amount? text.toList))
  match number.round places with
  | .ok rounded => return ⟨rounded.plain, some .number⟩
  | .error fault => .error (.fault fault)

/-- The places that a parameter asks for. -/
def places (op : Operation) (parameter : Option String) (default : Int) : Except Upset Int :=
  match parameter with
  | none => .ok default
  | some p =>
    match Number.count? p.toList with
    | some n => if n < 0 then .error (.cause (.badPlaces op p)) else .ok n
    | none => .error (.cause (.badPlaces op p))

def Operation.run (c : Context) (op : Operation) (flow : Flow) (parameter : Option String) :
    Except Upset Flow :=
  let text := flow.text
  match op with
  | .uppercase => .ok { flow with text := Text.upper text }
  | .lowercase => .ok { flow with text := Text.lower text }
  | .trim => .ok { flow with text := Text.trim text }
  | .removeLeadingZeros => .ok { flow with text := withoutLeadingZeros text }
  | .dateFormat => do
    let t ← expecting op text .date (Calendar.readDateTime c.today text)
    return ⟨t.format (parameter.getD c.settings.dateFormat), some .date⟩
  | .timeFormat => do
    let t ← expecting op text .time (Calendar.readClock c.today text)
    return ⟨t.format (parameter.getD c.settings.timeFormat), some .time⟩
  | .dateTimeFormat => do
    let t ← expecting op text .dateTime (Calendar.readDateTime c.today text)
    return ⟨t.format (parameter.getD c.settings.dateTimeFormat), some .dateTime⟩
  | .integerFormat => renderNumber op text 0
  | .currencyFormat => do
    renderNumber op text (← places op parameter c.settings.currencyPlaces)
  | .decimalFormat => do
    renderNumber op text (← places op parameter c.settings.decimalPlaces)

/-- One step of a chain that was given `raw`. -/
def Step.run (c : Context) (raw : String) (flow : Flow) (step : Step) : Except Failure Flow :=
  match Operation.ofName? step.name with
  | none => .error (.refused ⟨.unknown step.name, raw, some step.name, none⟩)
  | some op =>
    match flow.rendered, op.acceptsRendered with
    | some rendering, false =>
      .error (.refused ⟨.afterRendering op rendering flow.text, raw, some op.name, none⟩)
    | _, _ =>
      match op.run c flow step.parameter with
      | .ok flow => .ok flow
      | .error (.cause cause) => .error (.refused ⟨cause, raw, some op.name, none⟩)
      | .error (.fault fault) => .error (.fault fault)

/-- The text that steps make of `raw`, and how it was rendered last. -/
def runSteps (c : Context) (raw : String) (steps : List Step) : Except Failure Flow :=
  steps.foldlM (Step.run c raw) ⟨raw, none⟩

/-- The text that a chain makes of `raw`. -/
def apply (c : Context) (raw : String) (chain : Option String) : Except Failure String :=
  (runSteps c raw (steps chain)).map Flow.text

end Intake.Chain
