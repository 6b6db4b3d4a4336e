import Intake.Proofs.Calendar.ReadBack
import Intake.Proofs.Chain.Composition
import Intake.Proofs.Chain.Failures

/-! Days and times in chains. A text that stands for a moment can be rendered in the default formats
before it is converted without losing anything but the microseconds, unless the moment lies in one
of the first hundred years: those are written with fewer than three digits and read as short for
other years. -/

namespace Intake.Chain

open Calendar

section Blank

variable {today : Date} {raw : String}

theorem readLayouts?_nil :
    readLayouts? dateTimeLayouts [] = none ∧ readLayouts? clockLayouts [] = none := by
  decide +kernel

/-- No moment is read of blanks. -/
theorem readDateTime_blank (h : Text.isBlankText raw) : readDateTime today raw = .ok none := by
  have hLayouts := readLayouts?_nil.1
  have hFree : readFree today [] = .ok none := rfl
  unfold readDateTime
  split
  · rfl
  · simp only [Text.trimmed_of_blank h, hLayouts, hFree]

theorem readClock_blank (h : Text.isBlankText raw) : readClock today raw = .ok none := by
  have hLayouts := readLayouts?_nil.2
  have hTrim : Text.trim raw = "" := by rw [Text.trim, Text.trimmed_of_blank h]
  unfold readClock
  split
  · rfl
  · rw [Text.trimmed_of_blank h, hLayouts, hTrim]
    rfl

end Blank

section Transform

variable {c : Context} {raw text name : String} {type : FieldType}

/-- Without a chain a text is converted as it is. -/
theorem transform_none (hRaw : Text.isBlankText raw = false) :
    transform c raw none type = (convert c.today raw type.present raw none).map some := by
  have hApply : apply c raw none = .ok raw := rfl
  have hSteps : steps none = [] := rfl
  unfold transform
  rw [hRaw]
  simp only [Bool.false_eq_true, if_false, hApply, hSteps]
  rfl

/-- What a chain of one operation makes of a text is converted. -/
theorem transform_single {op : Operation} {rendered : Option Rendering}
    (hRaw : Text.isBlankText raw = false) (hSteps : steps (some name) = [⟨name, none⟩])
    (hName : Operation.ofName? name = some op)
    (hRun : op.run c ⟨raw, none⟩ none = .ok ⟨text, rendered⟩) :
    transform c raw (some name) type =
      (convert c.today text type.present raw (some name)).map some := by
  have hStep : Step.run c raw ⟨raw, none⟩ ⟨name, none⟩ = .ok ⟨text, rendered⟩ :=
    Step.run_eq_ok.mpr ⟨op, hName, rfl, hRun⟩
  have hApply : apply c raw (some name) = .ok text := by
    rw [apply, runSteps, hSteps, List.foldlM_cons, hStep]
    rfl
  unfold transform
  rw [hRaw]
  simp only [Bool.false_eq_true, if_false, hApply, hSteps]
  rfl

end Transform

section Convert

variable {today : Date} {text raw : String} {type : FieldType} {operation : Option String} {v : Value}

theorem convert_present_eq_ok {single : ValueType} (hType : type.present = .single single) :
    convert today text type.present raw operation = .ok v ↔
      valueOf today text single = .ok (.ok v) := by
  rw [convert_eq_ok, FieldType.present_present, hType]
  simp

theorem valueOf_date : valueOf today text .date = .ok (.ok v) ↔
    ∃ t, readDateTime today text = .ok (some t) ∧ v = .date t.date := by
  unfold valueOf
  dsimp only
  rcases readDateTime today text with fault | (_ | t) <;>
    simp [orMismatch, bind, Except.bind, pure, Except.pure, Except.map, eq_comm]

theorem valueOf_dateTime : valueOf today text .dateTime = .ok (.ok v) ↔
    ∃ t, readDateTime today text = .ok (some t) ∧ v = .dateTime t := by
  unfold valueOf
  dsimp only
  rcases readDateTime today text with fault | (_ | t) <;>
    simp [orMismatch, bind, Except.bind, pure, Except.pure, Except.map, eq_comm]

theorem valueOf_clock : valueOf today text .clock = .ok (.ok v) ↔
    ∃ k, readClock today text = .ok (some k) ∧ v = .clock k := by
  unfold valueOf
  dsimp only
  rcases readClock today text with fault | (_ | k) <;>
    simp [orMismatch, bind, Except.bind, pure, Except.pure, Except.map, eq_comm]

end Convert

/-- Days and times are rendered in the formats that hold unless others are set. -/
structure UsesDefaults (s : MappingSettings) : Prop where
  date : s.dateFormat = ({} : MappingSettings).dateFormat
  time : s.timeFormat = ({} : MappingSettings).timeFormat
  dateTime : s.dateTimeFormat = ({} : MappingSettings).dateTimeFormat

section Rendered

variable {c : Context} {raw : String} {t : DateTime} {k : Clock}

theorem run_dateFormat (hDefaults : UsesDefaults c.settings)
    (hRead : readDateTime c.today raw = .ok (some t)) :
    Operation.dateFormat.run c ⟨raw, none⟩ none =
      .ok ⟨String.ofList t.date.shown, some .date⟩ := by
  have hFormat : t.format c.settings.dateFormat = String.ofList t.date.shown :=
    hDefaults.date ▸ format_date t
  refine bind_eq_ok.mpr ⟨_, congrArg (expecting _ raw _) hRead, ?_⟩
  rw [Option.getD_none, hFormat]
  rfl

theorem run_dateTimeFormat (hDefaults : UsesDefaults c.settings)
    (hRead : readDateTime c.today raw = .ok (some t)) :
    Operation.dateTimeFormat.run c ⟨raw, none⟩ none =
      .ok ⟨String.ofList t.shown, some .dateTime⟩ := by
  have hFormat : t.format c.settings.dateTimeFormat = String.ofList t.shown :=
    hDefaults.dateTime ▸ format_dateTime t
  refine bind_eq_ok.mpr ⟨_, congrArg (expecting _ raw _) hRead, ?_⟩
  rw [Option.getD_none, hFormat]
  rfl

theorem run_timeFormat (hDefaults : UsesDefaults c.settings)
    (hRead : readClock c.today raw = .ok (some k)) :
    Operation.timeFormat.run c ⟨raw, none⟩ none =
      .ok ⟨String.ofList k.shown, some .time⟩ := by
  have hFormat : k.format c.settings.timeFormat = String.ofList k.shown :=
    hDefaults.time ▸ format_clock k
  refine bind_eq_ok.mpr ⟨_, congrArg (expecting _ raw _) hRead, ?_⟩
  rw [Option.getD_none, hFormat]
  rfl

end Rendered

/-- What becomes of a moment that is rendered in the default format before it is converted, and what
of one that is not. -/
structure KeepsMoments (c : Context) (raw : String) : Prop where
  date {t : DateTime} : readDateTime c.today raw = .ok (some t) → 100 ≤ t.date.year →
    ∀ type : FieldType, type.present = .single .date →
      transform c raw (some "date_format") type = .ok (some (.date t.date)) ∧
      transform c raw none type = .ok (some (.date t.date))
  dateTime {t : DateTime} : readDateTime c.today raw = .ok (some t) → 100 ≤ t.date.year →
    ∀ type : FieldType, type.present = .single .dateTime →
      transform c raw (some "datetime_format") type = .ok (some (.dateTime t.wholeSeconds)) ∧
      transform c raw none type = .ok (some (.dateTime t))
  clock {k : Clock} : readClock c.today raw = .ok (some k) →
    ∀ type : FieldType, type.present = .single .clock →
      transform c raw (some "time_format") type = .ok (some (.clock k.wholeSeconds)) ∧
      transform c raw none type = .ok (some (.clock k))
  /-- A year below 100 becomes another one, if anything. -/
  early {t : DateTime} : readDateTime c.today raw = .ok (some t) → t.date.year < 100 →
    150 ≤ c.today.year → ∀ type : FieldType,
      (type.present = .single .date → ∀ d,
        transform c raw (some "date_format") type = .ok (some (.date d)) → 100 ≤ d.year) ∧
      (type.present = .single .dateTime → ∀ t',
        transform c raw (some "datetime_format") type = .ok (some (.dateTime t')) →
          100 ≤ t'.date.year)

section Single

variable {c : Context} {raw : String} {t : DateTime} {k : Clock} {type : FieldType}

/-- The names of the operations that render moments are chains of one step. -/
theorem steps_rendering :
    ∀ name ∈ ["date_format", "datetime_format", "time_format"],
      steps (some name) = [⟨name, none⟩] := by
  decide +kernel

theorem notBlank_of_readDateTime (h : readDateTime c.today raw = .ok (some t)) :
    Text.isBlankText raw = false := by
  refine Bool.eq_false_iff.mpr fun hBlank => ?_
  rw [readDateTime_blank hBlank] at h
  cases h

theorem notBlank_of_readClock (h : readClock c.today raw = .ok (some k)) :
    Text.isBlankText raw = false := by
  refine Bool.eq_false_iff.mpr fun hBlank => ?_
  rw [readClock_blank hBlank] at h
  cases h

variable (hDefaults : UsesDefaults c.settings)

include hDefaults

theorem transform_dateFormat (hRead : readDateTime c.today raw = .ok (some t)) :
    transform c raw (some "date_format") type = (convert c.today (String.ofList t.date.shown)
      type.present raw (some "date_format")).map some :=
  transform_single (notBlank_of_readDateTime hRead) (steps_rendering _ (by simp)) rfl
    (run_dateFormat hDefaults hRead)

theorem transform_dateTimeFormat (hRead : readDateTime c.today raw = .ok (some t)) :
    transform c raw (some "datetime_format") type = (convert c.today (String.ofList t.shown)
      type.present raw (some "datetime_format")).map some :=
  transform_single (notBlank_of_readDateTime hRead) (steps_rendering _ (by simp)) rfl
    (run_dateTimeFormat hDefaults hRead)

theorem transform_timeFormat (hRead : readClock c.today raw = .ok (some k)) :
    transform c raw (some "time_format") type = (convert c.today (String.ofList k.shown)
      type.present raw (some "time_format")).map some :=
  transform_single (notBlank_of_readClock hRead) (steps_rendering _ (by simp)) rfl
    (run_timeFormat hDefaults hRead)

end Single

end Intake.Chain
