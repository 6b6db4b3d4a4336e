import Intake.Mapping.Lines
import Intake.Proofs.Results

/-! What applying a rule does to a record: it stays as it is, or the one field that the rule reaches
takes a value of the type it is declared with. -/

namespace Intake

namespace Chain

/-- A value that a field of a type takes: it is of the declared type, or that type is left open. -/
def Suits (v : Value) (type : ValueType) : Prop :=
  v.type = type ∨ type = .anything ∨ type = .unset

theorem valueOf_suits {today : Calendar.Date} {text : String} {type : ValueType} {v : Value}
    (h : valueOf today text type = .ok (.ok v)) : Suits v type := by
  cases type with
  | text =>
    cases h
    exact .inl rfl
  | anything => exact .inr (.inl rfl)
  | unset => exact .inr (.inr rfl)
  | truth =>
    rw [valueOf] at h
    split at h <;> cases h
    exact .inl rfl
  | whole =>
    rw [valueOf] at h
    split at h
    · cases h
    · obtain ⟨rounded, -, h⟩ := map_eq_ok.mp h
      cases h
      exact .inl rfl
  | decimal | double =>
    rw [valueOf] at h
    split at h <;> cases h
    exact .inl rfl
  | dateTime | date | clock =>
    rw [valueOf] at h
    obtain ⟨found, -, h⟩ := bind_eq_ok.mp h
    obtain ⟨t, -, rfl⟩ := map_eq_ok.mp (Except.ok.inj h)
    exact .inl rfl
  | identifier =>
    obtain ⟨n, -, rfl⟩ := map_eq_ok.mp (Except.ok.inj h)
    exact .inl rfl
  | documentKind | discovery =>
    rw [valueOf] at h
    split at h <;> cases h
    exact .inl rfl
  | bytes | nothing => cases h

theorem convert_suits {today : Calendar.Date} {text : String} {type : FieldType} {raw : String}
    {operation : Option String} {v : Value} (h : convert today text type raw operation = .ok v) :
    ∃ single, type.present = .single single ∧ Suits v single := by
  cases hType : type.present with
  | single single =>
    refine ⟨single, rfl, ?_⟩
    simp only [convert, hType] at h
    split at h
    · rename_i hValue
      cases h
      exact valueOf_suits hValue
    · cases h
    · cases h
  | choice types =>
    simp only [convert, hType] at h
    cases h

/-- What a chain makes of a text is of the type that was asked for. -/
theorem transform_suits {c : Context} {raw : String} {chain : Option String} {type : FieldType}
    {v : Value} (h : transform c raw chain type = .ok (some v)) :
    ∃ single, type.present.present = .single single ∧ Suits v single := by
  unfold transform at h
  split at h
  · cases h
  · split at h
    · cases h
    · obtain ⟨value, hValue, hSame⟩ := map_eq_ok.mp h
      cases hSame
      exact convert_suits hValue

end Chain

namespace Binding

/-- What a rule that is bound makes of a record: the record itself, or the record with a new value
of the field that the rule reaches. -/
inductive Assigned (record : Record) (rule : Rule) : Record → Prop
  | unchanged : Assigned record rule record
  | set {field : Field} {type : ValueType} {value : Value} :
      record.type.target? rule.targetField = some field →
      field.type.present.present = .single type → Chain.Suits value type →
      Assigned record rule (record.set field.name value)

theorem Assigned.type {record bound : Record} {rule : Rule} (h : Assigned record rule bound) :
    bound.type = record.type := by
  cases h <;> rfl

theorem fill_assigned {c : Chain.Context} {record bound : Record} {rule : Rule} {field : Field}
    {raw : String} (hField : record.type.target? rule.targetField = some field)
    (h : (fill c record rule field raw).value = .ok bound) : Assigned record rule bound := by
  unfold fill at h
  split at h
  · rw [Logged.value_bind] at h
    split at h <;> cases h
  · cases h
    exact .unchanged
  · rename_i value hValue
    obtain ⟨type, hType, hSuits⟩ := Chain.transform_suits hValue
    split at h
    · cases h
    · cases h
    · rename_i filled hAssign
      cases h
      unfold assign at hAssign
      split at hAssign
      · cases hAssign
      · cases hAssign
        exact .set hField hType hSuits

theorem bind_assigned {c : Chain.Context} {record bound : Record} {rule : Rule}
    {raw : Option String} (h : (bind c record rule raw).value = .ok (some bound)) :
    Assigned record rule bound := by
  unfold bind at h
  split at h
  · cases h
  · rename_i fields hFields
    split at h
    · cases h
    · rename_i field hField
      have hReach : record.type.target? rule.targetField = some field := by
        unfold RecordType.targets at hFields
        split at hFields <;> cases hFields
        exact hField
      split at h
      · dsimp only at h
        split at h <;> cases h
      · obtain ⟨filled, hFill, hSame⟩ := map_eq_ok.mp h
        cases hSame
        exact fill_assigned hReach hFill

end Binding

namespace Mapping

theorem applyRule_assigned {s : Scene} {n : XPath.Node} {record bound : Record} {rule : Rule}
    {path : String} (h : (applyRule s n record rule path).value = .ok bound) :
    Binding.Assigned record rule bound := by
  unfold applyRule at h
  rw [Logged.value_bind] at h
  split at h
  · cases h
  · rw [Logged.value_bind] at h
    split at h
    · cases h
    · rename_i filled hBind
      cases h
      cases filled with
      | none => exact .unchanged
      | some filled => exact Binding.bind_assigned hBind

/-- What becomes of a line: its rules are applied in order, up to one that is refused or fails. -/
inductive LineCourse (s : Scene) (n : XPath.Node) (parent : String) (index : Nat) :
    Record → List Rule → Except Binding.Failure LineResult → Prop
  | done (line : Record) : LineCourse s n parent index line [] (.ok (.bound line))
  | applied {line next : Record} {rule : Rule} {rest : List Rule}
      {result : Except Binding.Failure LineResult} :
      (applyRule s n line rule (Path.relative rule.sourcePath (some parent))).value = .ok next →
      LineCourse s n parent index next rest result →
      LineCourse s n parent index line (rule :: rest) result
  | refused {line : Record} {rule : Rule} {rest : List Rule} {refusal : Binding.Refusal} :
      (applyRule s n line rule (Path.relative rule.sourcePath (some parent))).value =
        .error (.refused refusal) →
      LineCourse s n parent index line (rule :: rest)
        (.ok (.excluded (lineEntry index rule refusal)))
  | failed {line : Record} {rule : Rule} {rest : List Rule} {failure : Binding.Failure} :
      (applyRule s n line rule (Path.relative rule.sourcePath (some parent))).value =
        .error failure →
      (∀ refusal, failure ≠ .refused refusal) →
      LineCourse s n parent index line (rule :: rest) (.error failure)

theorem applyLineRules_course {s : Scene} {n : XPath.Node} {parent : String} {index : Nat}
    {line : Record} {rules : List Rule} {result : Except Binding.Failure LineResult}
    (h : (applyLineRules s n parent index line rules).value = result) :
    LineCourse s n parent index line rules result := by
  subst h
  induction rules generalizing line with
  | nil => exact .done line
  | cons rule rest ih =>
    unfold applyLineRules
    rw [Logged.value_bind]
    split
    · rename_i next hNext
      exact .applied hNext ih
    · rename_i refusal hRefused
      exact .refused hRefused
    · rename_i failure hOther hFailed
      exact .failed hFailed hOther

/-- Line rules that all succeed keep what every one of them keeps. -/
theorem applyLineRules_keeps {s : Scene} {n : XPath.Node} {parent : String} {index : Nat}
    {rules : List Rule} {P : Record → Prop}
    (keeps : ∀ rule ∈ rules, ∀ record bound, P record → Binding.Assigned record rule bound → P bound)
    {line bound : Record} (hLine : P line)
    (h : (applyLineRules s n parent index line rules).value = .ok (.bound bound)) : P bound := by
  replace h := applyLineRules_course h
  generalize hResult : Except.ok (LineResult.bound bound) = result at h
  induction h with
  | done line =>
    cases hResult
    exact hLine
  | @applied line next rule rest result hNext _ ih =>
    have hKept : P next := keeps rule (by simp) line next hLine (applyRule_assigned hNext)
    exact ih (fun r hr => keeps r (List.mem_cons_of_mem rule hr)) hKept hResult
  | refused | failed => cases hResult

/-- A line that is bound: all its rules succeed, and it passes the check. -/
theorem bindLine_eq_bound {s : Scene} {checks : Checks} {n : XPath.Node} {group : LineGroup}
    {index : Nat} {line bound : Record}
    (h : (bindLine s checks n group index line).value = .ok (.bound bound)) :
    (applyLineRules s n group.parent index line group.rules).value = .ok (.bound bound) ∧
      checks.lineFlaw? bound = none := by
  unfold bindLine at h
  rw [Logged.value_bind] at h
  split at h
  · rename_i applied hApplied
    split at h
    · cases h
    · rename_i hCheck
      cases h
      exact ⟨hApplied, hCheck⟩
  · rename_i hOther
    exact (hOther bound h).elim

end Mapping

end Intake
