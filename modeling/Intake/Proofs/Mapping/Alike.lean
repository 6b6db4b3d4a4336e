import Intake.Proofs.Mapping.Apply
import Intake.Record.Fresh

/-! Lines that are alike. The lines of a document are told apart by their identities and numbers, which
depend on how many lines have been tried and bound before. Everything else that a line holds is the same
whatever came before it: rules do to lines that are alike the same, and leave them alike. -/

namespace Intake

/-- The fields that depend on what came before a line. -/
def countedFields : List String := ["id", "line_number"]

/-- Two records hold the same, their identities and numbers aside. -/
structure Record.Alike (a b : Record) : Prop where
  type : a.type = b.type
  entries : ∀ name ∉ countedFields, a.entries.lookup name = b.entries.lookup name

/-- Two results are the same error, or related values. -/
inductive Related {ε α β : Type} (R : α → β → Prop) : Except ε α → Except ε β → Prop
  | error (e : ε) : Related R (.error e) (.error e)
  | ok {a : α} {b : β} : R a b → Related R (.ok a) (.ok b)

namespace Record

variable {a b : Record}

theorem Alike.get? (h : a.Alike b) {name : String} (hName : name ∉ countedFields) :
    a.get? name = b.get? name := by
  rw [Record.get?, Record.get?, h.entries name hName]

theorem Alike.set (h : a.Alike b) (name : String) (value : Value) :
    (a.set name value).Alike (b.set name value) where
  type := h.type
  entries := by
    intro other hOther
    simp only [Record.set]
    rw [lookup_map_entry (fun k v => if k = name then some value else v),
      lookup_map_entry (fun k v => if k = name then some value else v), h.entries other hOther]

theorem lookup_map_field {β : Type} {name : String} {fields : List Field} {f g : Field → β}
    (h : ∀ field : Field, field.name = name → f field = g field) :
    (fields.map fun field => (field.name, f field)).lookup name =
      (fields.map fun field => (field.name, g field)).lookup name := by
  induction fields with
  | nil => rfl
  | cons field rest ih =>
    by_cases hName : field.name = name
    · simp [hName, h field hName]
    · have hOther : (name == field.name) = false := by simpa using Ne.symm hName
      simpa [List.lookup_cons, hOther] using ih

/-- Fresh lines of one header are alike. -/
theorem freshLine_alike (s : MappingSettings) (now : Calendar.DateTime) (kind : DocumentKind)
    (header : Record) (clientId : Option Int) (id id' : Nat) (number number' : Int) :
    (freshLine s now kind id header number clientId).Alike
      (freshLine s now kind id' header number' clientId) where
  type := rfl
  entries := by
    intro name hName
    -- The lookup ends at a field of that name, so the two values of one field are compared.
    apply lookup_map_field
    rintro field rfl
    obtain ⟨hId, hNumber⟩ : (field.name == "id") = false ∧ (field.name == "line_number") = false := by
      simpa [countedFields] using hName
    simp [originValues, auditValues, ownerValue, List.lookup_cons, hId, hNumber]

end Record

/-- Two results of a node are alike: lines that are bound, or the same entry. -/
inductive Mapping.LineResult.Alike : LineResult → LineResult → Prop
  | bound {a b : Record} : a.Alike b → Alike (.bound a) (.bound b)
  | excluded (entry : String) : Alike (.excluded entry) (.excluded entry)

section Rules

variable {a b : Record} {s : Mapping.Scene} {n : XPath.Node}

theorem Binding.assign_alike (h : a.Alike b) (field : Field) (value : Value) :
    Related Record.Alike (assign a field value) (assign b field value) := by
  unfold assign
  split
  · exact .error _
  · exact .ok (h.set field.name value)

theorem Binding.fill_alike (c : Chain.Context) (rule : Rule) (h : a.Alike b) (field : Field)
    (raw : String) :
    Related Record.Alike (fill c a rule field raw).value (fill c b rule field raw).value := by
  unfold fill
  rw [h.type]
  split
  · next failure _ => cases failure <;> exact .error _
  · exact .ok h
  · next value _ =>
    have hAssign := assign_alike h field value
    generalize assign a field value = x, assign b field value = y at hAssign ⊢
    cases hAssign with
    | error objection => obtain ⟨_ | _, text⟩ := objection <;> exact .error _
    | ok hFilled => exact .ok hFilled

theorem Binding.bind_alike (c : Chain.Context) (rule : Rule) (h : a.Alike b)
    (raw : Option String) :
    Related (Option.Rel Record.Alike) (bind c a rule raw).value (bind c b rule raw).value := by
  unfold bind
  rw [h.type]
  split
  · exact .error _
  · split
    · exact .error _
    · next field _ =>
      split
      · dsimp only [Logged.value_pure]
        split
        · exact .error _
        · exact .ok .none
      · next raw _ =>
        have hFill := fill_alike c rule h field raw
        simp only [Logged.value_bind, Logged.value_pure]
        generalize (fill c a rule field raw).value = x, (fill c b rule field raw).value = y at hFill ⊢
        cases hFill with
        | error e => exact .error e
        | ok hFilled => exact .ok (.some hFilled)

theorem Mapping.applyRule_alike (s : Scene) (n : XPath.Node) (rule : Rule) (h : a.Alike b)
    (path : String) :
    Related Record.Alike (applyRule s n a rule path).value (applyRule s n b rule path).value := by
  have hRaw : rawText s n a rule path = rawText s n b rule path := by
    unfold rawText
    rw [h.type]
  unfold applyRule
  rw [hRaw, Logged.value_bind, Logged.value_bind]
  split
  · exact .error _
  · next raw _ =>
    have hBind := Binding.bind_alike s.chains rule h raw
    simp only [Logged.value_bind]
    generalize (Binding.bind s.chains a rule raw).value = x,
      (Binding.bind s.chains b rule raw).value = y at hBind ⊢
    cases hBind with
    | error e => exact .error e
    | ok hBound =>
      cases hBound with
      | none => exact .ok h
      | some hBound => exact .ok hBound

theorem Mapping.applyLineRules_alike (h : a.Alike b) (parent : String) (index : Nat)
    (rules : List Rule) :
    Related LineResult.Alike (applyLineRules s n parent index a rules).value
      (applyLineRules s n parent index b rules).value := by
  induction rules generalizing a b with
  | nil => exact .ok (.bound h)
  | cons rule rest ih =>
    have hRule := applyRule_alike s n rule h
      (Path.relative rule.sourcePath (some parent))
    unfold applyLineRules
    rw [Logged.value_bind, Logged.value_bind]
    generalize (applyRule s n a rule _).value = x, (applyRule s n b rule _).value = y at hRule ⊢
    cases hRule with
    | error failure =>
      cases failure with
      | refused refusal => exact .ok (.excluded _)
      | clash clash => exact .error _
      | fault fault => exact .error _
    | ok hBound => exact ih hBound

/-- Binding lines that are alike has results that are alike, if the caller's check does not look at
what tells them apart. -/
theorem Mapping.bindLine_alike {checks : Checks}
    (hChecks : ∀ a b : Record, a.Alike b → checks.line a = checks.line b) (h : a.Alike b)
    (group : LineGroup) (index : Nat) :
    Related LineResult.Alike (bindLine s checks n group index a).value
      (bindLine s checks n group index b).value := by
  have hRules := applyLineRules_alike (s := s) (n := n) h group.parent index group.rules
  unfold bindLine
  rw [Logged.value_bind, Logged.value_bind]
  generalize (applyLineRules s n group.parent index a group.rules).value = x,
    (applyLineRules s n group.parent index b group.rules).value = y at hRules ⊢
  cases hRules with
  | error failure => exact .error failure
  | ok hResult =>
    cases hResult with
    | excluded entry => exact .ok (.excluded entry)
    | @bound a b hBound =>
      have hFlaw : checks.lineFlaw? a = checks.lineFlaw? b := by
        simp only [Checks.lineFlaw?, lineFlaw?, hBound.type, hChecks a b hBound,
          hBound.get? (show "header_id" ∉ countedFields by decide),
          hBound.get? (show "quantity" ∉ countedFields by decide)]
      dsimp only
      rw [hFlaw]
      split
      · exact .ok (.excluded _)
      · exact .ok (.bound hBound)

end Rules

end Intake
