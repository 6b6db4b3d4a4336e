import Mathlib.Data.List.Induction
import Intake.Proofs.Mapping.Header
import Intake.Proofs.Record.Targets

/-! What rules make of a record. Each rule fills a field with a value or leaves the record alone, and
which of the two it is does not depend on what the record holds by then. So the record that rules
lead to is the one they started from, with the value of the last rule that fills a field in each of
the fields that are filled. -/

namespace Intake

namespace Record

/-- The record with fields filled one after the other. -/
def filled (base : Record) (fillings : List (Field × Value)) : Record :=
  fillings.foldl (fun r filling => r.set filling.1.name filling.2) base

/-- The value that a field is filled with last. -/
def lastValue? (fillings : List (Field × Value)) (name : String) : Option Value :=
  (fillings.reverse.find? (·.1.name == name)).map Prod.snd

@[simp] theorem filled_nil (base : Record) : base.filled [] = base := rfl

theorem filled_append (base : Record) (first rest : List (Field × Value)) :
    base.filled (first ++ rest) = (base.filled first).filled rest := List.foldl_append

@[simp] theorem type_filled (base : Record) (fillings : List (Field × Value)) :
    (base.filled fillings).type = base.type := by
  induction fillings generalizing base with
  | nil => rfl
  | cons filling rest ih => exact ih (base.set filling.1.name filling.2)

theorem names_set (r : Record) (name : String) (value : Value) :
    (r.set name value).entries.map Prod.fst = r.entries.map Prod.fst := by
  rw [set, List.map_map]
  rfl

theorem names_filled (base : Record) (fillings : List (Field × Value)) :
    (base.filled fillings).entries.map Prod.fst = base.entries.map Prod.fst := by
  induction fillings generalizing base with
  | nil => rfl
  | cons filling rest ih =>
    show ((base.set filling.1.name filling.2).filled rest).entries.map Prod.fst = _
    rw [ih, names_set]

/-- A field holds what it is filled with last, or else what it held before. -/
theorem get?_filled {base : Record} {fillings : List (Field × Value)}
    (hKnown : ∀ filling ∈ fillings, filling.1.name ∈ base.entries.map Prod.fst) (name : String) :
    (base.filled fillings).get? name = (lastValue? fillings name).or (base.get? name) := by
  induction fillings using List.reverseRecOn with
  | nil => rfl
  | append_singleton fillings filling ih =>
    have hEarlier := ih fun f hf => hKnown f (List.mem_append_left _ hf)
    rw [filled_append, lastValue?, List.reverse_append, List.reverse_singleton,
      List.singleton_append, List.find?_cons]
    show ((base.filled fillings).set filling.1.name filling.2).get? name = _
    by_cases hSame : filling.1.name = name
    · subst hSame
      have hEntry : filling.1.name ∈ (base.filled fillings).entries.map Prod.fst := by
        rw [names_filled]
        exact hKnown filling (by simp)
      rw [get?_set_self hEntry]
      simp
    · rw [get?_set_of_ne (Ne.symm hSame), hEarlier, beq_false_of_ne hSame]
      rfl

theorem lastValue?_eq_none {fillings : List (Field × Value)} {name : String}
    (h : ∀ filling ∈ fillings, filling.1.name ≠ name) : lastValue? fillings name = none := by
  rw [lastValue?, Option.map_eq_none_iff, List.find?_eq_none]
  intro filling hFilling
  simpa using h filling (List.mem_reverse.mp hFilling)

end Record

namespace Binding

/-- What filling a field, or none, comes to: the record with the field filled, or a failure where
there is nothing to fill. -/
inductive Fills (record : Record) : Option (Field × Value) → Except Failure Record → Prop
  | filled (filling : Option (Field × Value)) :
      Fills record filling (.ok (record.filled filling.toList))
  | failed (failure : Failure) : Fills record none (.error failure)

theorem Fills.eq_filled {record bound : Record} {filling : Option (Field × Value)}
    (h : Fills record filling (.ok bound)) : bound = record.filled filling.toList := by
  cases h
  rfl

theorem Fills.eq_none {record : Record} {filling : Option (Field × Value)} {failure : Failure}
    (h : Fills record filling (.error failure)) : filling = none := by
  cases h
  rfl

/-- The value that a chain makes of a text, if it makes one. -/
def valueOf? (c : Chain.Context) (rule : Rule) (field : Field) (raw : String) : Option Value :=
  (Chain.transform c raw rule.transformation field.type).toOption.join

theorem fill_fills (c : Chain.Context) (record : Record) (rule : Rule) {field : Field}
    (raw : String) (hOpen : field.objections = []) :
    Fills record ((valueOf? c rule field raw).map fun value => (field, value))
      (fill c record rule field raw).value := by
  unfold fill valueOf?
  cases Chain.transform c raw rule.transformation field.type with
  | error failure =>
    rw [Logged.value_bind]
    cases failure <;> exact .failed _
  | ok value =>
    cases value with
    | none => exact .filled none
    | some value =>
      have hAssign : assign record field value = .ok (record.set field.name value) := by
        rw [assign, hOpen, List.lookup_nil]
      simp only [hAssign]
      exact .filled (some (field, value))

/-- The field that a rule fills in records of a type, and the value that it makes of what was
found. -/
def filling? (c : Chain.Context) (type : RecordType) (rule : Rule) (found : Option String) :
    Option (Field × Value) :=
  (type.target? rule.targetField).bind fun field =>
    (rawText rule found).bind fun raw =>
      (valueOf? c rule field raw).map fun value => (field, value)

theorem bind_fills (c : Chain.Context) {record : Record} (rule : Rule) (found : Option String)
    (hOpen : record.type.IsOpen) :
    Fills record (filling? c record.type rule found)
      ((bind c record rule found).value.map fun bound => bound.getD record) := by
  unfold bind filling?
  rw [hOpen.targets]
  cases hField : record.type.target? rule.targetField with
  | none =>
    have hNone : RecordType.fieldAmong record.type.reachable rule.targetField = none := hField
    simp only [hNone]
    exact .failed _
  | some field =>
    have hSome : RecordType.fieldAmong record.type.reachable rule.targetField = some field := hField
    simp only [hSome]
    cases rawText rule found with
    | none =>
      cases rule.isRequired with
      | false => exact .filled none
      | true => exact .failed _
    | some raw =>
      have hMem := (RecordType.mem_of_target? hField).1
      have hFill := fill_fills c record rule raw (hOpen.objections field hMem)
      simp only [Logged.value_bind, Logged.value_pure, Option.bind_some]
      cases hResult : (fill c record rule field raw).value with
      | ok bound =>
        rw [hResult] at hFill
        exact hFill
      | error failure =>
        rw [hResult] at hFill
        exact hFill

end Binding

namespace Mapping

open XPath

/-- The text that stands at a path from a node; there is none at an empty path. It is unknown where
the path cannot be evaluated. -/
def textAt? (s : Scene) (n : Node) (path : String) : Option (Option String) :=
  if path.isEmpty then some none else (Query.text s.document s.spaces n path).value.toOption

/-- The field that a rule fills in records of a type, and the value that it fills it with. -/
def filling? (s : Scene) (n : Node) (type : RecordType) (path : String) (rule : Rule) :
    Option (Field × Value) :=
  (textAt? s n path).bind fun found => Binding.filling? s.chains type rule found

theorem applyRule_fills (s : Scene) (n : Node) {record : Record} (rule : Rule) (path : String)
    (hOpen : record.type.IsOpen) :
    Binding.Fills record (filling? s n record.type path rule)
      (applyRule s n record rule path).value := by
  have hText : (rawText s n record rule path).value.toOption = textAt? s n path := by
    unfold rawText textAt?
    split
    · rfl
    · rw [Logged.value_bind]
      cases (Query.text s.document s.spaces n path).value with
      | ok raw => rfl
      | error failure => cases failure <;> rfl
  unfold applyRule filling?
  rw [← hText, Logged.value_bind]
  cases (rawText s n record rule path).value with
  | error failure => exact .failed _
  | ok found =>
    have hBind := Binding.bind_fills s.chains rule found hOpen
    rw [Logged.value_bind]
    cases hResult : (Binding.bind s.chains record rule found).value with
    | error failure =>
      rw [hResult] at hBind
      exact hBind
    | ok bound =>
      rw [hResult] at hBind
      exact hBind

/-- The fields that rules fill, with their values, in the order of the rules. -/
def fillings (s : Scene) (n : Node) (type : RecordType) (path : Rule → String)
    (rules : List Rule) : List (Field × Value) :=
  rules.filterMap fun rule => filling? s n type (path rule) rule

theorem fillings_cons (s : Scene) (n : Node) (type : RecordType) (path : Rule → String)
    (rule : Rule) (rest : List Rule) :
    fillings s n type path (rule :: rest) =
      (filling? s n type (path rule) rule).toList ++ fillings s n type path rest := by
  rw [fillings, List.filterMap_cons]
  cases filling? s n type (path rule) rule <;> rfl

/-- Header rules that are gone through to the end fill the header. -/
theorem HeaderCourse.filled {s : Scene} {n : Node} {header last : Record} {rules : List Rule}
    {entries : List String} (h : HeaderCourse s n header rules entries last)
    (hOpen : header.type.IsOpen) :
    last = header.filled (fillings s n header.type headerPath rules) := by
  induction h with
  | done header => rfl
  | @applied header next last rule rest entries hRule _ ih =>
    have hFills := applyRule_fills s n rule (headerPath rule) hOpen
    rw [hRule] at hFills
    obtain rfl := hFills.eq_filled
    rw [Record.type_filled] at ih
    rw [ih hOpen, fillings_cons, Record.filled_append]
  | @skipped header last rule rest entries refusal hRule _ _ ih =>
    have hFills := applyRule_fills s n rule (headerPath rule) hOpen
    rw [hRule] at hFills
    rw [ih hOpen, fillings_cons, hFills.eq_none]
    rfl

/-- The path of a line rule from a line of its group. -/
def linePath (parent : String) (rule : Rule) : String :=
  Path.relative rule.sourcePath (some parent)

/-- Line rules that all succeed fill the line. -/
theorem applyLineRules_filled {s : Scene} {n : Node} {parent : String} {index : Nat}
    {line bound : Record} {rules : List Rule} (hOpen : line.type.IsOpen)
    (h : (applyLineRules s n parent index line rules).value = .ok (.bound bound)) :
    bound = line.filled (fillings s n line.type (linePath parent) rules) := by
  replace h := applyLineRules_course h
  generalize hResult : Except.ok (LineResult.bound bound) = result at h
  induction h with
  | done line =>
    cases hResult
    rfl
  | @applied line next rule rest result hRule _ ih =>
    have hFills := applyRule_fills s n rule (linePath parent rule) hOpen
    rw [show applyRule s n line rule (linePath parent rule) =
      applyRule s n line rule (Path.relative rule.sourcePath (some parent)) from rfl, hRule]
      at hFills
    have hNext := hFills.eq_filled
    have hType : next.type = line.type := by rw [hNext, Record.type_filled]
    rw [fillings_cons, Record.filled_append, ← hNext, ← hType]
    exact ih (by rwa [hType]) hResult
  | refused | failed => cases hResult

/-- A record that rules have filled, from what they started with. Each field that is filled is one
that a rule reaches by its name; it holds what it is filled with last, and all other fields hold what
they held before. -/
structure FilledBy (s : Scene) (n : Node) (path : Rule → String) (rules : List Rule)
    (base record : Record) : Prop where
  whole : record = base.filled (fillings s n base.type path rules)
  reached : ∀ filling ∈ fillings s n base.type path rules,
    filling.1 ∈ base.type.fields ∧ filling.1.name ∉ protectedFields ∧
      ∃ rule ∈ rules, plainName rule.targetField = plainName filling.1.name ∧
        filling? s n base.type (path rule) rule = some filling
  value : ∀ name, record.get? name =
    (Record.lastValue? (fillings s n base.type path rules) name).or (base.get? name)
  guarded : ∀ name ∈ protectedFields, record.get? name = base.get? name
  untargeted : ∀ name, (∀ rule ∈ rules, plainName rule.targetField ≠ plainName name) →
    record.get? name = base.get? name

theorem filling?_eq_some {s : Scene} {n : Node} {type : RecordType} {path : String} {rule : Rule}
    {filling : Field × Value} (h : filling? s n type path rule = some filling) :
    type.target? rule.targetField = some filling.1 := by
  obtain ⟨found, -, h⟩ := Option.bind_eq_some_iff.mp h
  obtain ⟨field, hField, h⟩ := Option.bind_eq_some_iff.mp h
  obtain ⟨raw, -, h⟩ := Option.bind_eq_some_iff.mp h
  obtain ⟨value, -, rfl⟩ := Option.map_eq_some_iff.mp h
  exact hField

/-- Filling a record with an entry for each field of its type. -/
theorem filledBy_of_filled {s : Scene} {n : Node} {path : Rule → String} {rules : List Rule}
    {base record : Record} (hNames : base.entries.map Prod.fst = base.type.fields.map Field.name)
    (h : record = base.filled (fillings s n base.type path rules)) :
    FilledBy s n path rules base record := by
  have hReached : ∀ filling ∈ fillings s n base.type path rules,
      filling.1 ∈ base.type.fields ∧ filling.1.name ∉ protectedFields ∧
        ∃ rule ∈ rules, plainName rule.targetField = plainName filling.1.name ∧
          filling? s n base.type (path rule) rule = some filling := by
    intro filling hFilling
    obtain ⟨rule, hRule, hFills⟩ := List.mem_filterMap.mp hFilling
    have hTarget := filling?_eq_some hFills
    obtain ⟨hField, hFree⟩ := RecordType.mem_of_target? hTarget
    refine ⟨hField, hFree, rule, hRule, ?_, hFills⟩
    have hSame := List.find?_some hTarget
    exact (eq_of_beq hSame).symm
  have hValue : ∀ name, record.get? name =
      (Record.lastValue? (fillings s n base.type path rules) name).or (base.get? name) := by
    intro name
    rw [h]
    refine Record.get?_filled (fun filling hFilling => ?_) name
    rw [hNames]
    exact List.mem_map_of_mem (hReached filling hFilling).1
  refine ⟨h, hReached, hValue, ?_, ?_⟩
  · intro name hName
    have hNone : Record.lastValue? (fillings s n base.type path rules) name = none := by
      refine Record.lastValue?_eq_none fun filling hFilling hSame => ?_
      exact (hReached filling hFilling).2.1 (hSame ▸ hName)
    rw [hValue, hNone]
    rfl
  · intro name hName
    have hNone : Record.lastValue? (fillings s n base.type path rules) name = none := by
      refine Record.lastValue?_eq_none fun filling hFilling hSame => ?_
      obtain ⟨rule, hRule, hPlain, -⟩ := (hReached filling hFilling).2.2
      exact hName rule hRule (hPlain.trans (by rw [hSame]))
    rw [hValue, hNone]
    rfl

end Mapping

end Intake
