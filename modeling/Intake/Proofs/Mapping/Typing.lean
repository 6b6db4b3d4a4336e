import Intake.Proofs.Record.Typed

/-! Binding is all or nothing, and keeps records typed. A rule that is bound gives the one field that
it reaches a value of the type that the field is declared with; a rule that is not bound leaves the
record as it is. So whatever rules are tried on a fresh header or line, every field goes on holding
what its declaration says, although nothing is checked when a field takes its value. -/

namespace Intake

namespace Binding

variable {c : Chain.Context} {record bound : Record} {rule : Rule} {found : Option String}
  {field : Field}

/-- A text that a rule works on is never blank. -/
theorem rawText_notBlank {text : String} (h : rawText rule found = some text) :
    Text.isBlankText text = false := by
  unfold rawText at h
  dsimp only at h
  split at h
  · next hThere => simpa [h] using hThere
  · split at h
    · next hThere => simpa [h] using hThere
    · cases h

/-- A field that is filled takes the value that the chain makes of the text. -/
theorem fill_eq_ok {text : String} (hField : field.objections = [])
    (hText : Text.isBlankText text = false)
    (h : (fill c record rule field text).value = .ok bound) :
    ∃ value, valueOf? c rule field text = some value ∧ bound = record.set field.name value := by
  unfold fill at h
  split at h
  · rw [Logged.value_bind] at h
    split at h <;> cases h
  · rename_i hNothing
    -- A chain makes nothing of a blank text alone.
    simp only [Chain.transform, hText, Bool.false_eq_true, if_false] at hNothing
    split at hNothing
    · cases hNothing
    · obtain ⟨value, -, hNone⟩ := map_eq_ok.mp hNothing
      cases hNone
  · rename_i value hValue
    have hAssign : assign record field value = .ok (record.set field.name value) := by
      rw [assign, hField, List.lookup_nil]
    rw [hAssign, Logged.value_bind] at h
    refine ⟨value, ?_, (Except.ok.inj h).symm⟩
    rw [valueOf?, hValue]
    rfl

/-- A rule that is bound fills a field. -/
theorem bind_eq_bound (hOpen : record.type.IsOpen)
    (h : (bind c record rule found).value = .ok (some bound)) :
    ∃ field value, filling? c record.type rule found = some (field, value) ∧
      bound = record.set field.name value := by
  unfold bind at h
  rw [hOpen.targets] at h
  dsimp only at h
  split at h
  · cases h
  · rename_i field hField
    split at h
    · split at h <;> cases h
    · rename_i text hText
      obtain ⟨filled, hFill, hSame⟩ := map_eq_ok.mp h
      cases hSame
      have hFree := hOpen.objections field (RecordType.mem_of_target? hField).1
      obtain ⟨value, hValue, hBound⟩ := fill_eq_ok hFree (rawText_notBlank hText) hFill
      have hTarget : record.type.target? rule.targetField = some field := hField
      refine ⟨field, value, ?_, hBound⟩
      rw [filling?, hTarget, Option.bind_some, hText, Option.bind_some, hValue]
      rfl

theorem transform_of_valueOf? {text : String} {value : Value}
    (h : valueOf? c rule field text = some value) :
    Chain.transform c text rule.transformation field.type = .ok (some value) := by
  unfold valueOf? at h
  cases hResult : Chain.transform c text rule.transformation field.type with
  | error failure =>
    rw [hResult] at h
    cases h
  | ok made =>
    rw [hResult] at h
    exact congrArg Except.ok h

/-- The value that a rule fills a field with is of the one type that the field holds. -/
theorem filling?_typed {type : RecordType} (hType : type.IsDefinite) {value : Value}
    (h : filling? c type rule found = some (field, value)) :
    type.target? rule.targetField = some field ∧ field.type.present = .single value.type := by
  obtain ⟨reached, hReached, h⟩ := Option.bind_eq_some_iff.mp h
  obtain ⟨text, -, h⟩ := Option.bind_eq_some_iff.mp h
  obtain ⟨made, hMade, hSame⟩ := Option.map_eq_some_iff.mp h
  obtain ⟨rfl, rfl⟩ := Prod.mk.inj hSame
  obtain ⟨single, hPresent, hSuits⟩ := Chain.transform_suits (transform_of_valueOf? hMade)
  rw [FieldType.present_present] at hPresent
  obtain ⟨hKnown, -⟩ := RecordType.mem_of_target? hReached
  exact ⟨hReached, by rw [hPresent, hType.type_eq_of_suits hKnown hPresent hSuits]⟩

/-- What a rule that is bound does to a record. The field is the one that goes by the name that the
rule targets; the value is of the type that is left of its declaration without absence; no other
field changes. -/
structure BoundTo (record : Record) (rule : Rule) (field : Field) (value : Value)
    (bound : Record) : Prop where
  type : bound.type = record.type
  known : field ∈ record.type.fields
  only : ∀ other ∈ record.type.fields,
    plainName other.name = plainName rule.targetField ↔ other = field
  typed : field.type.present = .single value.type
  holds : bound.get? field.name = some value
  rest : ∀ name, name ≠ field.name → bound.get? name = record.get? name

theorem exists_boundTo (hRecord : record.IsTyped) (hType : record.type.IsDefinite)
    (h : (bind c record rule found).value = .ok (some bound)) :
    ∃ field value, BoundTo record rule field value bound ∧ bound = record.set field.name value := by
  obtain ⟨field, value, hFilling, rfl⟩ := bind_eq_bound hType.toIsOpen h
  obtain ⟨hTarget, hPresent⟩ := filling?_typed hType hFilling
  obtain ⟨hKnown, -⟩ := RecordType.mem_of_target? hTarget
  refine ⟨field, value, ⟨rfl, hKnown, ?_, hPresent, ?_, ?_⟩, rfl⟩
  · exact fun other hOther => hType.plainName_eq_iff hTarget hOther
  · refine Record.get?_set_self ?_
    rw [hRecord.names]
    exact List.mem_map_of_mem hKnown
  · exact fun name hName => Record.get?_set_of_ne hName

/-- The record after a rule was tried on it: the one in which it is bound, or else the one that was
there. -/
def standing (record : Record) : Except Failure (Option Record) → Record
  | .ok (some bound) => bound
  | .ok none | .error _ => record

/-- One rule that is tried: what its chain works with, the rule, and the text that was found. -/
structure Try where
  chains : Chain.Context
  rule : Rule
  found : Option String

/-- The record after rules were tried on it one after the other. -/
def tryAll (record : Record) (tries : List Try) : Record :=
  tries.foldl (fun r t => standing r (bind t.chains r t.rule t.found).value) record

/-- How a rule may end that is tried on a record: bound as a whole, or without any effect. -/
structure AllOrNothing (record : Record) (rule : Rule)
    (result : Except Failure (Option Record)) : Prop where
  bound : ∀ bound, result = .ok (some bound) →
    standing record result = bound ∧ ∃ field value, BoundTo record rule field value bound
  unbound : result = .ok none → standing record result = record
  failed : ∀ failure, result = .error failure → standing record result = record

theorem bind_allOrNothing (c : Chain.Context) (rule : Rule) (found : Option String)
    (hRecord : record.IsTyped) (hType : record.type.IsDefinite) :
    AllOrNothing record rule (bind c record rule found).value where
  bound := by
    intro bound h
    obtain ⟨field, value, hBound, -⟩ := exists_boundTo hRecord hType h
    exact ⟨by rw [h]; rfl, field, value, hBound⟩
  unbound h := by rw [h]; rfl
  failed failure h := by rw [h]; rfl

/-- One rule keeps a record typed, and of its type. -/
theorem standing_isTyped (c : Chain.Context) (rule : Rule) (found : Option String)
    (hRecord : record.IsTyped) (hType : record.type.IsDefinite) :
    (standing record (bind c record rule found).value).IsTyped ∧
      (standing record (bind c record rule found).value).type = record.type := by
  cases hResult : (bind c record rule found).value with
  | error failure => exact ⟨hRecord, rfl⟩
  | ok filled =>
    cases filled with
    | none => exact ⟨hRecord, rfl⟩
    | some bound =>
      obtain ⟨field, value, hBound, rfl⟩ := exists_boundTo hRecord hType hResult
      exact ⟨hRecord.set hType hBound.known (FieldType.admits_of_present hBound.typed), rfl⟩

/-- Any number of rules keep a record typed, and of its type. -/
theorem tryAll_isTyped (tries : List Try) (hRecord : record.IsTyped)
    (hType : record.type.IsDefinite) :
    (tryAll record tries).IsTyped ∧ (tryAll record tries).type = record.type := by
  induction tries generalizing record with
  | nil => exact ⟨hRecord, rfl⟩
  | cons first rest ih =>
    obtain ⟨hNext, hSame⟩ := standing_isTyped first.chains first.rule first.found hRecord hType
    obtain ⟨hLast, hLastType⟩ := ih hNext (by rwa [hSame])
    exact ⟨hLast, hLastType.trans hSame⟩

end Binding

/-- A header or a line as it is made, before any rule is tried on it. -/
inductive Record.IsFresh : Record → Prop
  | header (s : MappingSettings) (now : Calendar.DateTime) (kind : DocumentKind) (id : Nat)
      (clientId : Option Int) : IsFresh (freshHeader s now kind id clientId)
  | line (s : MappingSettings) (now : Calendar.DateTime) (kind : DocumentKind) (id : Nat)
      (header : Record) (number : Int) (clientId : Option Int) :
      IsFresh (freshLine s now kind id header number clientId)

theorem Record.IsFresh.typed {record : Record} (h : record.IsFresh) :
    record.IsTyped ∧ record.type.IsDefinite := by
  cases h with
  | header s now kind id clientId =>
    exact ⟨freshHeader_isTyped s now kind id clientId, kind.headerType_isDefinite⟩
  | line s now kind id header number clientId =>
    exact ⟨freshLine_isTyped s now kind id clientId header number, kind.lineType_isDefinite⟩

namespace Binding

/-- Whatever rules are tried on a fresh header or line, with whatever texts, the record stays typed,
and the next rule that is tried is bound as a whole or leaves it as it is. -/
theorem tryAll_typed {record : Record} (hFresh : record.IsFresh) (tries : List Try) :
    (tryAll record tries).IsTyped ∧ (tryAll record tries).type = record.type ∧
      ∀ next : Try, AllOrNothing (tryAll record tries) next.rule
        (bind next.chains (tryAll record tries) next.rule next.found).value := by
  obtain ⟨hRecord, hType⟩ := hFresh.typed
  obtain ⟨hTyped, hSame⟩ := tryAll_isTyped tries hRecord hType
  refine ⟨hTyped, hSame, fun next => ?_⟩
  exact bind_allOrNothing next.chains next.rule next.found hTyped (by rwa [hSame])

/-- A rule for the quantity of an ordered item. -/
def quantityRule : Rule where
  name := "quantity"
  targetField := "Shipped-QTY"
  tableName := DocumentKind.order.lineType.table

/-- A quantity that is a number is bound, and stays when another one is refused. -/
theorem tryAll_typed_quantity :
    let header := Record.freshHeader {} default .order 1 none
    let line := Record.freshLine {} default .order 2 header 1 none
    let tries : List Try :=
      [⟨⟨{}, default⟩, quantityRule, some "12.5"⟩, ⟨⟨{}, default⟩, quantityRule, some "many"⟩]
    line.IsFresh ∧ (tryAll line tries).IsTyped ∧
      (tryAll line tries).get? "shipped_qty" = some (.decimal ⟨false, 125, -1⟩) := by
  intro header line tries
  have hFresh : line.IsFresh := .line {} default .order 2 header 1 none
  exact ⟨hFresh, (tryAll_typed hFresh tries).1, by decide +kernel⟩

end Binding

namespace Mapping

section Tries

open Binding

variable {s : Scene} {n : XPath.Node} {rules : List Rule}

/-- A rule that is applied is tried with the text that was found for it. -/
theorem applyRule_standing {record next : Record} {rule : Rule} {path : String}
    (h : (applyRule s n record rule path).value = .ok next) :
    ∃ found, next = standing record (bind s.chains record rule found).value := by
  unfold applyRule at h
  rw [Logged.value_bind] at h
  split at h
  · cases h
  · rename_i found _
    rw [Logged.value_bind] at h
    split at h
    · cases h
    · rename_i filled hBind
      cases h
      refine ⟨found, ?_⟩
      rw [hBind]
      cases filled <;> rfl

/-- The header rules that are gone through are tried on the header, those left aside that were
refused. -/
theorem HeaderCourse.tries {header last : Record} {entries : List String}
    (h : HeaderCourse s n header rules entries last) :
    ∃ tries : List Try, last = tryAll header tries ∧ (tries.map Try.rule).Sublist rules := by
  induction h with
  | done header => exact ⟨[], rfl, .slnil⟩
  | @applied header next last rule rest entries hRule _ ih =>
    obtain ⟨found, rfl⟩ := applyRule_standing hRule
    obtain ⟨tries, hLast, hRules⟩ := ih
    exact ⟨⟨s.chains, rule, found⟩ :: tries, hLast, hRules.cons_cons rule⟩
  | @skipped header last rule rest entries refusal _ _ _ ih =>
    obtain ⟨tries, hLast, hRules⟩ := ih
    exact ⟨tries, hLast, hRules.cons rule⟩

/-- The line rules that all succeed are tried on the line one after the other. -/
theorem applyLineRules_tries {parent : String} {index : Nat} {line bound : Record}
    (h : (applyLineRules s n parent index line rules).value = .ok (.bound bound)) :
    ∃ tries : List Try, bound = tryAll line tries ∧ tries.map Try.rule = rules := by
  replace h := applyLineRules_course h
  generalize hResult : Except.ok (LineResult.bound bound) = result at h
  induction h with
  | done line =>
    cases hResult
    exact ⟨[], rfl, rfl⟩
  | @applied line next rule rest result hRule _ ih =>
    obtain ⟨found, rfl⟩ := applyRule_standing hRule
    obtain ⟨tries, hBound, hRules⟩ := ih hResult
    exact ⟨⟨s.chains, rule, found⟩ :: tries, hBound, congrArg (rule :: ·) hRules⟩
  | refused | failed => cases hResult

end Tries

/-- Rules that fill a typed record leave it typed. -/
theorem FilledBy.isTyped {s : Scene} {n : XPath.Node} {path : Rule → String} {rules : List Rule}
    {base record : Record} (h : FilledBy s n path rules base record) (hBase : base.IsTyped)
    (hType : base.type.IsDefinite) : record.IsTyped := by
  rw [h.whole]
  refine hBase.filled hType fun filling hFilling => ?_
  obtain ⟨hKnown, -, rule, -, -, hFills⟩ := h.reached filling hFilling
  obtain ⟨found, -, hFills⟩ := Option.bind_eq_some_iff.mp hFills
  exact ⟨hKnown, FieldType.admits_of_present (Binding.filling?_typed hType hFills).2⟩

end Mapping

end Intake
