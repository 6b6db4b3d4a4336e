import Mathlib.Data.List.Nodup
import Intake.Proofs.Chain.Failures
import Intake.Proofs.Mapping.Alike
import Intake.Proofs.Mapping.Filling
import Intake.Record.Fresh

/-! Typed records: every field holds a value of the type it is declared with, or nothing where the
declaration allows that. Fresh headers and lines are typed. Giving a field a value checks nothing,
so a record stays typed just as long as each value that it is given is of the right type. -/

namespace Intake

/-- The type of what a field holds. -/
def Value.typeOf : Option Value → ValueType
  | none => .nothing
  | some v => v.type

namespace FieldType

/-- A declaration that lets a field hold something of a type. -/
def Admits : FieldType → ValueType → Prop
  | single type, held => held = type
  | choice types, held => held ∈ types

instance (type : FieldType) (held : ValueType) : Decidable (type.Admits held) :=
  match type with
  | .single declared => inferInstanceAs (Decidable (held = declared))
  | .choice types => inferInstanceAs (Decidable (held ∈ types))

/-- The type that is left of a declaration without absence is one that it admits. -/
theorem admits_of_present {type : FieldType} {held : ValueType}
    (h : type.present = .single held) : type.Admits held := by
  cases type with
  | single single => exact (FieldType.single.inj h).symm
  | choice types =>
    rcases hTypes : types.filter (· != .nothing) with _ | ⟨first, _ | ⟨second, rest⟩⟩
    · simp [present, hTypes] at h
    · have hFirst : first ∈ types.filter (· != .nothing) := by simp [hTypes]
      have hHeld : first = held := by simpa [present, hTypes] using h
      exact hHeld ▸ (List.mem_filter.mp hFirst).1
    · simp [present, hTypes] at h

end FieldType

namespace RecordType

/-- The types that leave a value open. -/
def openTypes : List ValueType := [.anything, .unset]

/-- A type that is open to rules, whose fields are all told apart by their names even when case,
underscores, dashes and blanks do not count, and hold values of one type each. -/
structure IsDefinite (type : RecordType) : Prop extends IsOpen type where
  distinct : (type.fields.map fun field => plainName field.name).Nodup
  present : ∀ field ∈ type.fields, ∀ held ∈ openTypes, field.type.present ≠ .single held

variable {type : RecordType}

theorem IsDefinite.eq_of_plainName (h : type.IsDefinite) {f g : Field} (hf : f ∈ type.fields)
    (hg : g ∈ type.fields) (hName : plainName f.name = plainName g.name) : f = g :=
  List.inj_on_of_nodup_map h.distinct hf hg hName

theorem IsDefinite.nodup_names (h : type.IsDefinite) : (type.fields.map Field.name).Nodup := by
  refine List.Nodup.of_map plainName ?_
  rw [List.map_map]
  exact h.distinct

theorem plainName_of_target? {name : String} {field : Field}
    (h : type.target? name = some field) : plainName field.name = plainName name :=
  (fieldAmong_found h).2

/-- The field that a name reaches is the only one that goes by it. -/
theorem IsDefinite.plainName_eq_iff (h : type.IsDefinite) {name : String} {field other : Field}
    (hTarget : type.target? name = some field) (hOther : other ∈ type.fields) :
    plainName other.name = plainName name ↔ other = field := by
  have hSame := plainName_of_target? hTarget
  constructor
  · intro hPlain
    exact h.eq_of_plainName hOther (mem_of_target? hTarget).1 (hPlain.trans hSame.symm)
  · rintro rfl
    exact hSame

/-- A value that suits a field is of the one type that the field holds. -/
theorem IsDefinite.type_eq_of_suits (h : type.IsDefinite) {field : Field}
    (hField : field ∈ type.fields) {single : ValueType}
    (hPresent : field.type.present = .single single) {value : Value}
    (hSuits : Chain.Suits value single) : value.type = single := by
  rcases hSuits with hSame | rfl | rfl
  · exact hSame
  · exact absurd hPresent (h.present field hField _ (by decide))
  · exact absurd hPresent (h.present field hField _ (by decide))

end RecordType

theorem DocumentKind.headerType_isDefinite (kind : DocumentKind) : kind.headerType.IsDefinite where
  toIsOpen := kind.headerType_isOpen
  distinct := kind.headerType_distinct
  present := by cases kind <;> decide

theorem DocumentKind.lineType_isDefinite (kind : DocumentKind) : kind.lineType.IsDefinite where
  toIsOpen := kind.lineType_isOpen
  distinct := kind.lineType_distinct
  present := by cases kind <;> decide

namespace Record

/-- A record with one entry for each field of its type, which holds something that the field is
declared with. -/
structure IsTyped (r : Record) : Prop where
  names : r.entries.map Prod.fst = r.type.fields.map Field.name
  holds : ∀ field ∈ r.type.fields, field.type.Admits (Value.typeOf (r.get? field.name))

/-- A record stays typed when a field takes a value of its type. -/
theorem IsTyped.set {r : Record} (h : r.IsTyped) (hType : r.type.IsDefinite) {field : Field}
    (hField : field ∈ r.type.fields) {value : Value} (hValue : field.type.Admits value.type) :
    (r.set field.name value).IsTyped where
  names := by rw [names_set, h.names, type_set]
  holds := by
    intro other hOther
    by_cases hSame : other.name = field.name
    · obtain rfl := List.inj_on_of_nodup_map hType.nodup_names hOther hField hSame
      have hEntry : other.name ∈ r.entries.map Prod.fst := by
        rw [h.names]
        exact List.mem_map_of_mem hField
      rw [get?_set_self hEntry]
      exact hValue
    · rw [get?_set_of_ne hSame]
      exact h.holds other hOther

theorem IsTyped.filled {r : Record} (h : r.IsTyped) (hType : r.type.IsDefinite)
    {fillings : List (Field × Value)} (hFillings : ∀ filling ∈ fillings,
      filling.1 ∈ r.type.fields ∧ filling.1.type.Admits filling.2.type) :
    (r.filled fillings).IsTyped := by
  induction fillings generalizing r with
  | nil => exact h
  | cons first rest ih =>
    obtain ⟨hField, hValue⟩ := hFillings first List.mem_cons_self
    exact ih (h.set hType hField hValue) hType
      fun filling hFilling => hFillings filling (List.mem_cons_of_mem first hFilling)

theorem lookup_map_name {β : Type} {fields : List Field} {field : Field} (g : Field → β)
    (hNames : (fields.map Field.name).Nodup) (hField : field ∈ fields) :
    (fields.map fun f => (f.name, g f)).lookup field.name = some (g field) := by
  induction fields with
  | nil => cases hField
  | cons first rest ih =>
    obtain ⟨hFirst, hRest⟩ := List.nodup_cons.mp hNames
    rcases List.mem_cons.mp hField with rfl | hField
    · rw [List.map_cons, List.lookup_cons_self]
    · have hOther : (field.name == first.name) = false := by
        refine beq_false_of_ne fun hSame => hFirst ?_
        exact hSame ▸ List.mem_map_of_mem hField
      simpa [List.lookup_cons, hOther] using ih hRest hField

/-- A field of a record that is made of values holds its value, or what its declaration says. -/
theorem get?_ofValues {type : RecordType} (hType : type.IsDefinite) {field : Field}
    (hField : field ∈ type.fields) (values : List (String × Option Value)) :
    (ofValues type values).get? field.name = (values.lookup field.name).getD field.default := by
  rw [get?, ofValues, lookup_map_name _ hType.nodup_names hField]
  rfl

/-- The types of given values. -/
def heldTypes (values : List (String × Option Value)) : List (String × ValueType) :=
  values.map fun entry => (entry.1, Value.typeOf entry.2)

/-- Whether given values have types that the fields of a record admit. -/
def Fits (type : RecordType) (held : List (String × ValueType)) : Prop :=
  ∀ field ∈ type.fields,
    field.type.Admits ((held.lookup field.name).getD (Value.typeOf field.default))

instance (type : RecordType) (held : List (String × ValueType)) : Decidable (Fits type held) :=
  List.decidableBAll _ type.fields

/-- A record is typed when the values that it is made of are; only their types count. -/
theorem ofValues_isTyped {type : RecordType} (hType : type.IsDefinite)
    {values : List (String × Option Value)} (h : Fits type (heldTypes values)) :
    (ofValues type values).IsTyped where
  names := by
    rw [ofValues, List.map_map]
    rfl
  holds := by
    intro field hField
    rw [get?_ofValues hType hField]
    have hHeld : (heldTypes values).lookup field.name =
        (values.lookup field.name).map Value.typeOf :=
      lookup_map_entry (fun _ => Value.typeOf) field.name values
    have hFits := h field hField
    rw [hHeld] at hFits
    cases hValue : values.lookup field.name with
    | none => simpa [hValue] using hFits
    | some held => simpa [hValue] using hFits

theorem typeOf_map {α : Type} (f : α → Value) {type : ValueType} (h : ∀ a, (f a).type = type)
    (found : Option α) : Value.typeOf (found.map f) ∈ [.nothing, type] := by
  cases found with
  | none => exact List.mem_cons_self
  | some a => exact h a ▸ List.mem_cons_of_mem _ List.mem_cons_self

section Fresh

variable (s : MappingSettings) (now : Calendar.DateTime) (kind : DocumentKind) (id : Nat)
  (clientId : Option Int)

/-- The types of what every record is made with. They do not depend on the values. -/
def originTypes : List (String × ValueType) := heldTypes (originValues 0 default ++ auditValues {})

/-- The types of what a header is made with, by that of its owner. -/
def headerHeld (owner : ValueType) : List (String × ValueType) :=
  originTypes ++ heldTypes (headerTimes default kind) ++ [("client_id", owner)]

theorem headerHeld_fits :
    ∀ owner ∈ [ValueType.nothing, .whole], Fits kind.headerType (headerHeld kind owner) := by
  cases kind <;> decide +kernel

theorem freshHeader_isTyped : (freshHeader s now kind id clientId).IsTyped := by
  refine ofValues_isTyped kind.headerType_isDefinite ?_
  have hHeld : heldTypes (originValues id now ++ auditValues s ++ headerTimes now kind ++
      [ownerValue clientId]) = headerHeld kind (Value.typeOf (clientId.map Value.whole)) := by
    cases kind <;> rfl
  rw [hHeld]
  exact headerHeld_fits kind _ (typeOf_map Value.whole (fun _ => rfl) clientId)

/-- The types of what a line is made with, by those of its header's identity and of its owner. -/
def lineHeld (headerId owner : ValueType) : List (String × ValueType) :=
  originTypes ++ [("header_id", headerId), ("client_id", owner), ("line_number", .text)]

theorem lineHeld_fits : ∀ headerId ∈ [ValueType.nothing, .identifier],
    ∀ owner ∈ [ValueType.nothing, .whole], Fits kind.lineType (lineHeld headerId owner) := by
  cases kind <;> decide +kernel

theorem freshLine_isTyped (header : Record) (number : Int) :
    (freshLine s now kind id header number clientId).IsTyped := by
  refine ofValues_isTyped kind.lineType_isDefinite ?_
  exact lineHeld_fits kind _ (typeOf_map Value.identifier (fun _ => rfl) header.id?) _
    (typeOf_map Value.whole (fun _ => rfl) (clientId <|> header.clientId?))

end Fresh

end Record

end Intake
