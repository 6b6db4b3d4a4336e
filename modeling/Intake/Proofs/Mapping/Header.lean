import Intake.Proofs.Mapping.Faults
import Intake.Proofs.Trail

/-! The course of the header rules: an optional rule that is refused leaves the header as it is and one
entry in the trail; only a required rule, or a fault, ends the course early. -/

namespace Intake.Mapping

open XPath

/-- The path of a header rule. -/
def headerPath (rule : Rule) : String := rule.sourcePath.getD ""

/-- Rules that are gone through in order lead from one header to another, and leave entries in the
trail: a rule is applied, or it is optional and refused. -/
inductive HeaderCourse (s : Scene) (n : Node) : Record → List Rule → List String → Record → Prop
  | done (header : Record) : HeaderCourse s n header [] [] header
  | applied {header next last : Record} {rule : Rule} {rest : List Rule} {entries : List String} :
      (applyRule s n header rule (headerPath rule)).value = .ok next →
      HeaderCourse s n next rest entries last →
      HeaderCourse s n header (rule :: rest) entries last
  | skipped {header last : Record} {rule : Rule} {rest : List Rule} {entries : List String}
      {refusal : Binding.Refusal} :
      (applyRule s n header rule (headerPath rule)).value = .error (.refused refusal) →
      rule.isRequired = false →
      HeaderCourse s n header rest entries last →
      HeaderCourse s n header (rule :: rest) (Text.trim (headerEntry rule refusal) :: entries) last

/-- What stops the mapping of a header, and the entries in the trail by then: a required rule that is
refused, a rule that comes to a fault, or the check of the header that the rules lead to. -/
inductive HeaderStop (s : Scene) (checks : Checks) (n : Node) (header : Record)
    (rules : List Rule) : HeaderFailure → List String → Prop
  | refused {done later : List Rule} {rule : Rule} {entries : List String} {last : Record}
      {refusal : Binding.Refusal} :
      rules = done ++ rule :: later → HeaderCourse s n header done entries last →
      (applyRule s n last rule (headerPath rule)).value = .error (.refused refusal) →
      rule.isRequired → HeaderStop s checks n header rules (.binding (.refused refusal)) entries
  | fault {done later : List Rule} {rule : Rule} {entries : List String} {last : Record}
      {fault : Fault} :
      rules = done ++ rule :: later → HeaderCourse s n header done entries last →
      (applyRule s n last rule (headerPath rule)).value = .error (.fault fault) →
      FaultCause s n last rule (headerPath rule) fault →
      HeaderStop s checks n header rules (.binding (.fault fault)) entries
  | rejected {entries : List String} {last : Record} {rejection : Rejection} :
      HeaderCourse s n header rules entries last → checks.header last = some rejection →
      HeaderStop s checks n header rules (.rejected rejection) entries

theorem headerEntry_notBlank (rule : Rule) (refusal : Binding.Refusal) :
    Text.isBlankText (headerEntry rule refusal) = false := by
  have hInitial : 'H' ∈ (headerEntry rule refusal).toList := by
    unfold headerEntry
    generalize shownText rule.sourcePath = path
    generalize refusal.message = message
    simp
  exact Text.isBlankText_of_mem hInitial (by decide)

variable {s : Scene} {n : Node} {header : Record}

theorem HeaderCourse.type {last : Record} {rules : List Rule} {entries : List String}
    (h : HeaderCourse s n header rules entries last) : last.type = header.type := by
  induction h with
  | done header => rfl
  | applied hRule _ ih => rw [ih, (applyRule_assigned hRule).type]
  | skipped _ _ _ ih => exact ih

/-- The rules are gone through up to the end. -/
theorem applyHeaderRules_done {trail trail' : Trail} {final : Record} {rules : List Rule}
    (h : (applyHeaderRules s n trail header rules).value = (.ok final, trail')) :
    ∃ entries, HeaderCourse s n header rules entries final ∧
      trail' = { trail with entries := trail.entries ++ entries } := by
  induction rules generalizing trail header with
  | nil =>
    cases h
    exact ⟨[], .done final, by simp⟩
  | cons rule rest ih =>
    unfold applyHeaderRules at h
    rw [Logged.value_bind] at h
    split at h
    · rename_i next hRule
      obtain ⟨entries, hCourse, hTrail⟩ := ih h
      exact ⟨entries, .applied hRule hCourse, hTrail⟩
    · rename_i refusal hRule
      split at h
      · cases h
      · rename_i hOptional
        obtain ⟨entries, hCourse, hTrail⟩ := ih h
        refine ⟨_, .skipped hRule (by simpa using hOptional) hCourse, ?_⟩
        rw [hTrail, Trail.add_of_notBlank (headerEntry_notBlank rule refusal)]
        simp
    · cases h

/-- The rules are gone through up to one that ends the course: it is required and refused, or it comes
to a fault or a clash. -/
theorem applyHeaderRules_error {trail trail' : Trail} {rules : List Rule}
    {failure : Binding.Failure}
    (h : (applyHeaderRules s n trail header rules).value = (.error failure, trail')) :
    ∃ done rule later entries last, rules = done ++ rule :: later ∧
      HeaderCourse s n header done entries last ∧
      trail' = { trail with entries := trail.entries ++ entries } ∧
      (applyRule s n last rule (headerPath rule)).value = .error failure ∧
      ∀ refusal, failure = .refused refusal → rule.isRequired := by
  induction rules generalizing trail header with
  | nil => cases h
  | cons rule rest ih =>
    unfold applyHeaderRules at h
    rw [Logged.value_bind] at h
    split at h
    · rename_i next hRule
      obtain ⟨done, ending, later, entries, last, rfl, hCourse, hTrail, hEnd⟩ := ih h
      exact ⟨rule :: done, ending, later, entries, last, rfl, .applied hRule hCourse, hTrail, hEnd⟩
    · rename_i refusal hRule
      split at h
      · rename_i hRequired
        cases h
        exact ⟨[], rule, rest, [], header, rfl, .done header, by simp, hRule, fun _ _ => hRequired⟩
      · rename_i hOptional
        obtain ⟨done, ending, later, entries, last, rfl, hCourse, hTrail, hEnd⟩ := ih h
        refine ⟨rule :: done, ending, later, _, last, rfl,
          .skipped hRule (by simpa using hOptional) hCourse, ?_, hEnd⟩
        rw [hTrail, Trail.add_of_notBlank (headerEntry_notBlank rule refusal)]
        simp
    · rename_i other hOther hRule
      cases h
      exact ⟨[], rule, rest, [], header, rfl, .done header, by simp, hRule,
        fun refusal hRefused => absurd hRefused (hOther refusal)⟩

/-- A header that is mapped is the end of the course of all its rules, and passes the check. -/
theorem bindHeader_ok {checks : Checks} {trail trail' : Trail} {final : Record} {rules : List Rule}
    (h : (bindHeader s checks n trail header rules).value = (.ok final, trail')) :
    ∃ entries, HeaderCourse s n header rules entries final ∧ checks.header final = none ∧
      trail' = { trail with entries := trail.entries ++ entries } := by
  unfold bindHeader at h
  rw [Logged.value_bind] at h
  split at h
  · cases h
  · rename_i last after hRules
    obtain ⟨entries, hCourse, hTrail⟩ := applyHeaderRules_done hRules
    split at h
    · cases h
    · rename_i hCheck
      cases h
      exact ⟨entries, hCourse, hCheck, hTrail⟩

/-- Nothing else stops the mapping of a header. -/
theorem bindHeader_error {checks : Checks} {trail trail' : Trail} {rules : List Rule}
    {failure : HeaderFailure} (hOpen : header.type.IsOpen)
    (h : (bindHeader s checks n trail header rules).value = (.error failure, trail')) :
    ∃ entries, HeaderStop s checks n header rules failure entries ∧
      trail' = { trail with entries := trail.entries ++ entries } := by
  unfold bindHeader at h
  rw [Logged.value_bind] at h
  split at h
  · rename_i stopped after hRules
    cases h
    obtain ⟨done, rule, later, entries, last, hSplit, hCourse, hTrail, hRule, hRequired⟩ :=
      applyHeaderRules_error hRules
    refine ⟨entries, ?_, hTrail⟩
    rcases applyRule_error (hCourse.type ▸ hOpen) hRule with ⟨refusal, rfl⟩ | ⟨fault, rfl, hCause⟩
    · exact .refused hSplit hCourse hRule (hRequired refusal rfl)
    · exact .fault hSplit hCourse hRule hCause
  · rename_i last after hRules
    obtain ⟨entries, hCourse, hTrail⟩ := applyHeaderRules_done hRules
    split at h
    · rename_i rejection hCheck
      cases h
      exact ⟨entries, .rejected hCourse hCheck, hTrail⟩
    · cases h

end Intake.Mapping
