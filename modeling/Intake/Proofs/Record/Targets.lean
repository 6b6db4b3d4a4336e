import Mathlib.Data.List.Nodup
import Intake.Record.Catalog

/-! The fields that rules can reach. They are looked through one by one, each among those in front of
it, and can be told apart if none is found there. In headers and lines they can, and take every
value. -/

namespace Intake

/-- A type whose fields rules can tell apart and give every value. -/
structure RecordType.IsOpen (type : RecordType) : Prop where
  clash : type.clash? = none
  objections : ∀ field ∈ type.fields, field.objections = []

theorem RecordType.IsOpen.targets {type : RecordType} (h : type.IsOpen) :
    type.targets = .ok type.reachable := by
  rw [RecordType.targets, h.clash]

namespace RecordType

theorem mem_reachable {type : RecordType} {field : Field} :
    field ∈ type.reachable ↔ field ∈ type.fields ∧ field.name ∉ protectedFields := by
  simp [reachable]

/-- What is found by a name goes by it. -/
theorem fieldAmong_found {fields : List Field} {name : String} {field : Field}
    (h : fieldAmong fields name = some field) :
    field ∈ fields ∧ plainName field.name = plainName name :=
  ⟨List.mem_of_find?_eq_some h, by simpa using List.find?_some h⟩

theorem mem_of_target? {type : RecordType} {name : String} {field : Field}
    (h : type.target? name = some field) :
    field ∈ type.fields ∧ field.name ∉ protectedFields :=
  mem_reachable.mp (fieldAmong_found h).1

/-- Fields that are all told apart by their names. -/
def AreDistinct (fields : List Field) : Prop :=
  fields.Pairwise fun f g => plainName f.name ≠ plainName g.name

theorem areDistinct_iff_nodup {fields : List Field} :
    AreDistinct fields ↔ (fields.map fun field => plainName field.name).Nodup :=
  List.pairwise_map.symm

section Among

variable {seen fields : List Field} {field first second : Field} {name : String}

theorem fieldAmong_eq_none_iff :
    fieldAmong fields name = none ↔ ∀ f ∈ fields, plainName f.name ≠ plainName name := by
  simp [fieldAmong]

/-- Among fields that are told apart a name finds the one that goes by it. -/
theorem fieldAmong_eq_some_iff (h : AreDistinct fields) :
    fieldAmong fields name = some field ↔
      field ∈ fields ∧ plainName field.name = plainName name := by
  refine ⟨fieldAmong_found, fun ⟨hField, hName⟩ => ?_⟩
  cases hFound : fieldAmong fields name with
  | none => exact absurd hName (fieldAmong_eq_none_iff.mp hFound field hField)
  | some other =>
    obtain ⟨hMem, hOther⟩ := fieldAmong_found hFound
    rw [List.inj_on_of_nodup_map (areDistinct_iff_nodup.mp h) hMem hField
      (hOther.trans hName.symm)]

/-- What one more field does to fields that are told apart. -/
theorem areDistinct_concat :
    AreDistinct (seen ++ [field]) ↔ AreDistinct seen ∧ fieldAmong seen field.name = none := by
  simp [AreDistinct, List.pairwise_append, fieldAmong_eq_none_iff]

/-- No clash is found exactly if all fields are told apart, those already seen among them. -/
theorem clashAmong_eq_none_iff (h : AreDistinct seen) :
    clashAmong seen fields = none ↔ AreDistinct (seen ++ fields) := by
  induction fields generalizing seen with
  | nil => simpa [clashAmong] using h
  | cons field rest ih =>
    rw [clashAmong, List.append_cons seen field rest]
    cases hSeen : fieldAmong seen field.name with
    | none => exact ih (areDistinct_concat.mpr ⟨h, hSeen⟩)
    | some first =>
      refine ⟨nofun, fun hAll => ?_⟩
      have hBefore := hAll.sublist (List.sublist_append_left (seen ++ [field]) rest)
      rw [(areDistinct_concat.mp hBefore).2] at hSeen
      cases hSeen

/-- The clash that is found: up to its second field all fields are told apart. -/
theorem clashAmong_eq_some (h : AreDistinct seen)
    (hClash : clashAmong seen fields = some (first, second)) :
    ∃ before after, fields = before ++ second :: after ∧ AreDistinct (seen ++ before) ∧
      fieldAmong (seen ++ before) second.name = some first := by
  induction fields generalizing seen with
  | nil => cases hClash
  | cons field rest ih =>
    rw [clashAmong] at hClash
    cases hSeen : fieldAmong seen field.name with
    | none =>
      rw [hSeen] at hClash
      obtain ⟨before, after, rfl, hBefore, hFirst⟩ :=
        ih (areDistinct_concat.mpr ⟨h, hSeen⟩) hClash
      rw [← List.append_cons] at hBefore hFirst
      exact ⟨field :: before, after, rfl, hBefore, hFirst⟩
    | some found =>
      rw [hSeen] at hClash
      cases hClash
      exact ⟨[], rest, rfl, by simpa using h, by simpa using hSeen⟩

end Among

theorem clash?_eq_none_iff {type : RecordType} :
    type.clash? = none ↔ AreDistinct type.reachable := by
  rw [clash?, Option.map_eq_none_iff]
  exact clashAmong_eq_none_iff .nil

/-- Fields that are all told apart by their names do not clash. -/
theorem clash?_eq_none {type : RecordType}
    (h : (type.fields.map fun field => plainName field.name).Nodup) : type.clash? = none :=
  clash?_eq_none_iff.mpr ((areDistinct_iff_nodup.mpr h).sublist List.filter_sublist)

end RecordType

namespace DocumentKind

theorem headerType_distinct (kind : DocumentKind) :
    (kind.headerType.fields.map fun field => plainName field.name).Nodup := by
  cases kind <;> decide +kernel

theorem lineType_distinct (kind : DocumentKind) :
    (kind.lineType.fields.map fun field => plainName field.name).Nodup := by
  cases kind <;> decide +kernel

theorem headerType_isOpen (kind : DocumentKind) : kind.headerType.IsOpen := by
  constructor
  · exact RecordType.clash?_eq_none kind.headerType_distinct
  · cases kind <;> decide

theorem lineType_isOpen (kind : DocumentKind) : kind.lineType.IsOpen := by
  constructor
  · exact RecordType.clash?_eq_none kind.lineType_distinct
  · cases kind <;> decide

end DocumentKind

end Intake
