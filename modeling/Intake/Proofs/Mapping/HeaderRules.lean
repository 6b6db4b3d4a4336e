import Intake.Proofs.Mapping.Filling

/-! What becomes of a list of header rules. Whether a rule is refused, and with which value it fills
which field, does not depend on what the header holds by then. So the outcome can be told from the
list: the first required rule that is refused stops it and is all that is seen of what stands behind
it; optional rules that are refused leave one entry each; all other rules fill the header in order. -/

namespace Intake

namespace Binding

/-- The refusal among failures. -/
def Failure.refusal? : Failure → Option Refusal
  | .refused refusal => some refusal
  | _ => none

section SameType

variable {c : Chain.Context} {a b : Record} {rule : Rule} {failure : Failure}

theorem fill_error_congr {field : Field} {raw : String} (hType : a.type = b.type)
    (h : (fill c a rule field raw).value = .error failure) :
    (fill c b rule field raw).value = .error failure := by
  unfold fill at h ⊢
  rw [← hType]
  cases hTransform : Chain.transform c raw rule.transformation field.type with
  | error refused =>
    simp only [hTransform] at h ⊢
    exact h
  | ok found =>
    simp only [hTransform] at h ⊢
    cases found with
    | none => cases h
    | some value =>
      unfold assign at h ⊢
      cases hObjection : field.objections.lookup value with
      | none =>
        simp only [hObjection] at h
        cases h
      | some objection =>
        simp only [hObjection] at h ⊢
        exact h

theorem bind_error_congr {raw : Option String} (hType : a.type = b.type)
    (h : (bind c a rule raw).value = .error failure) :
    (bind c b rule raw).value = .error failure := by
  unfold bind at h ⊢
  rw [← hType]
  split at h
  · exact h
  · split at h
    · exact h
    · split at h
      · exact h
      · have hFill := fill_error_congr hType (map_eq_error.mp h)
        exact map_eq_error.mpr hFill

end SameType

end Binding

/-- What is done next depends on the value before it alone. -/
theorem Logged.bind_congr {α β : Type} {x : Logged α} {f g : α → Logged β}
    (h : f x.value = g x.value) : x >>= f = x >>= g := by
  show Logged.mk _ _ = Logged.mk _ _
  rw [h]

namespace Mapping

open XPath

variable {s : Scene} {n : Node}

/-- Why applying a rule fails depends on the type of the record alone. -/
theorem applyRule_error_congr {a b : Record} {rule : Rule} {path : String}
    {failure : Binding.Failure} (hType : a.type = b.type)
    (h : (applyRule s n a rule path).value = .error failure) :
    (applyRule s n b rule path).value = .error failure := by
  have hRaw : rawText s n b rule path = rawText s n a rule path := by
    unfold rawText
    rw [hType]
  unfold applyRule at h ⊢
  rw [hRaw]
  rw [Logged.value_bind] at h ⊢
  split at h
  · exact h
  · rw [Logged.value_bind] at h ⊢
    split at h
    · next hBind =>
      rw [Binding.bind_error_congr hType hBind]
      exact h
    · cases h

/-- Why a header rule fails on records of a type, if it does. -/
def failure? (s : Scene) (n : Node) (type : RecordType) (rule : Rule) : Option Binding.Failure :=
  match (applyRule s n (Record.fresh type) rule (headerPath rule)).value with
  | .error failure => some failure
  | .ok _ => none

/-- Why a header rule is refused for records of a type, if it is. -/
def refusal? (s : Scene) (n : Node) (type : RecordType) (rule : Rule) : Option Binding.Refusal :=
  (failure? s n type rule).bind Binding.Failure.refusal?

/-- A rule either succeeds or is refused; it does not come to a fault. -/
def Answers (s : Scene) (n : Node) (type : RecordType) (rule : Rule) : Prop :=
  ∀ failure, failure? s n type rule = some failure → ∃ refusal, failure = .refused refusal

/-- The entries that the optional rules among some rules leave in the trail. -/
def optionalEntries (s : Scene) (n : Node) (type : RecordType) (rules : List Rule) :
    List String :=
  rules.filterMap fun rule =>
    if rule.isRequired then none
    else (refusal? s n type rule).map fun refusal => Text.trim (headerEntry rule refusal)

variable {type : RecordType} {record header : Record} {rule : Rule} {trail : Trail}

/-- A rule does to every record of a type the same. -/
theorem applyRule_eq (s : Scene) (n : Node) (rule : Rule) (hOpen : record.type.IsOpen) :
    (applyRule s n record rule (headerPath rule)).value =
      match failure? s n record.type rule with
      | some failure => .error failure
      | none => .ok (record.filled (filling? s n record.type (headerPath rule) rule).toList) := by
  have hType : record.type = (Record.fresh record.type).type := rfl
  have hFills := applyRule_fills s n rule (headerPath rule) hOpen
  unfold failure?
  cases hFresh : (applyRule s n (Record.fresh record.type) rule (headerPath rule)).value with
  | error failure => exact applyRule_error_congr hType.symm hFresh
  | ok bound =>
    cases hResult : (applyRule s n record rule (headerPath rule)).value with
    | error failure =>
      rw [applyRule_error_congr hType hResult] at hFresh
      cases hFresh
    | ok bound =>
      rw [hResult] at hFills
      rw [hFills.eq_filled]

/-- A rule answers exactly if nothing but a refusal keeps it from succeeding. -/
theorem answers_iff : Answers s n type rule ↔
    failure? s n type rule = (refusal? s n type rule).map .refused := by
  unfold Answers refusal?
  cases failure? s n type rule with
  | none => simp
  | some failure => cases failure <;> simp [Binding.Failure.refusal?]

/-- What the next rule does to a header. -/
theorem applyHeaderRules_cons (hOpen : header.type.IsOpen) (rest : List Rule)
    (hAnswers : Answers s n header.type rule) :
    (applyHeaderRules s n trail header (rule :: rest)).value =
      match refusal? s n header.type rule with
      | none => (applyHeaderRules s n trail
          (header.filled (filling? s n header.type (headerPath rule) rule).toList) rest).value
      | some refusal =>
        if rule.isRequired then (.error (.refused refusal), trail)
        else (applyHeaderRules s n (trail.add (headerEntry rule refusal)) header rest).value := by
  have hRule := applyRule_eq s n rule hOpen
  rw [answers_iff.mp hAnswers] at hRule
  rw [applyHeaderRules, Logged.value_bind, ← headerPath, hRule]
  cases refusal? s n header.type rule with
  | none => rfl
  | some refusal =>
    dsimp only [Option.map_some]
    split <;> rfl

section Rules

variable {done later : List Rule}

/-- Rules among which no required one is refused are gone through. -/
theorem applyHeaderRules_append (hOpen : header.type.IsOpen) (rest : List Rule)
    (hAnswers : ∀ rule ∈ done, Answers s n header.type rule)
    (hRequired : ∀ rule ∈ done, rule.isRequired → refusal? s n header.type rule = none) :
    (applyHeaderRules s n trail header (done ++ rest)).value =
      (applyHeaderRules s n
        { trail with entries := trail.entries ++ optionalEntries s n header.type done }
        (header.filled (fillings s n header.type headerPath done)) rest).value := by
  -- A filled header has the type of the header, which is all that refusals depend on, so what the
  -- other rules do can be told from the header as it was.
  induction done generalizing trail header with
  | nil => simp [optionalEntries, fillings]
  | cons rule done ih =>
    obtain ⟨hRule, hLater⟩ := List.forall_mem_cons.mp hAnswers
    obtain ⟨hFirst, hOthers⟩ := List.forall_mem_cons.mp hRequired
    have hFills := applyRule_fills s n rule (headerPath rule) hOpen
    have hSame := applyRule_eq s n rule hOpen
    rw [answers_iff.mp hRule] at hSame
    rw [List.cons_append, applyHeaderRules_cons hOpen (done ++ rest) hRule, fillings_cons,
      Record.filled_append, optionalEntries, List.filterMap_cons]
    cases hRefusal : refusal? s n header.type rule with
    | none =>
      dsimp only
      rw [ih (by simpa using hOpen) (by simpa using hLater) (by simpa using hOthers)]
      simp [optionalEntries]
    | some refusal =>
      have hOptional : rule.isRequired = false := by
        rw [Bool.eq_false_iff]
        intro hIs
        rw [hFirst hIs] at hRefusal
        cases hRefusal
      rw [hRefusal] at hSame
      rw [hSame] at hFills
      rw [hFills.eq_none, hOptional]
      dsimp only [Bool.false_eq_true, if_false]
      rw [if_neg Bool.false_ne_true, ih hOpen hLater hOthers,
        Trail.add_of_notBlank (headerEntry_notBlank rule refusal)]
      simp [optionalEntries]

/-- Rules among which no required one is refused fill the header. -/
theorem applyHeaderRules_finished (hOpen : header.type.IsOpen)
    (hAnswers : ∀ rule ∈ done, Answers s n header.type rule)
    (hRequired : ∀ rule ∈ done, rule.isRequired → refusal? s n header.type rule = none) :
    (applyHeaderRules s n trail header done).value =
      (.ok (header.filled (fillings s n header.type headerPath done)),
        { trail with entries := trail.entries ++ optionalEntries s n header.type done }) := by
  have hRules : (applyHeaderRules s n trail header (done ++ [])).value = _ :=
    applyHeaderRules_append hOpen [] hAnswers hRequired
  rw [List.append_nil] at hRules
  exact hRules

/-- The first required rule that is refused ends the course. -/
theorem applyHeaderRules_stopped (hOpen : header.type.IsOpen) (later : List Rule)
    {refusal : Binding.Refusal} (hAnswers : ∀ rule ∈ done, Answers s n header.type rule)
    (hRequired : ∀ rule ∈ done, rule.isRequired → refusal? s n header.type rule = none)
    (hRule : Answers s n header.type rule) (hIs : rule.isRequired)
    (hRefused : refusal? s n header.type rule = some refusal) :
    (applyHeaderRules s n trail header (done ++ rule :: later)).value =
      (.error (.refused refusal),
        { trail with entries := trail.entries ++ optionalEntries s n header.type done }) := by
  rw [applyHeaderRules_append hOpen (rule :: later) hAnswers hRequired,
    applyHeaderRules_cons (by simpa using hOpen) later (by simpa using hRule), Record.type_filled,
    hRefused]
  exact if_pos hIs

/-- A required rule that is refused hides what stands behind it, the log included. -/
theorem applyHeaderRules_hides (hOpen : header.type.IsOpen) (later : List Rule)
    {refusal : Binding.Refusal} (hRule : Answers s n header.type rule)
    (hRequired : rule.isRequired) (hRefused : refusal? s n header.type rule = some refusal) :
    applyHeaderRules s n trail header (done ++ rule :: later) =
      applyHeaderRules s n trail header (done ++ [rule]) := by
  induction done generalizing trail header with
  | nil =>
    have hEnds := applyRule_eq s n rule hOpen
    rw [answers_iff.mp hRule, hRefused] at hEnds
    rw [List.nil_append, List.nil_append, applyHeaderRules, applyHeaderRules]
    refine Logged.bind_congr ?_
    rw [← headerPath, hEnds]
    simp only [Option.map_some, hRequired, if_true]
  | cons first done ih =>
    rw [List.cons_append, List.cons_append, applyHeaderRules, applyHeaderRules]
    refine Logged.bind_congr ?_
    split
    · next next hNext =>
      have hType : next.type = header.type := (applyRule_assigned hNext).type
      rw [ih (hType ▸ hOpen) (hType ▸ hRule) (hType ▸ hRefused)]
    · split
      · rfl
      · rw [ih hOpen hRule hRefused]
    · rfl

end Rules

end Mapping

end Intake
