import Intake.Database.Kept
import Intake.Proofs.Results
import Intake.Record.Fresh

/-! What comes back for a record that a database keeps: a field that has no value from the start holds
what it held before, unless that is a decimal. -/

namespace Intake

/-- Whether a type has a field of a name that has no value from the start. -/
def RecordType.IsVacant (t : RecordType) (name : String) : Prop :=
  (t.fields.find? fun f => f.name == name).map Field.default = some none

instance (t : RecordType) (name : String) : Decidable (t.IsVacant name) :=
  inferInstanceAs (Decidable (_ = _))

theorem DocumentKind.headerType_isVacant (kind : DocumentKind) :
    ∀ name ∈ ["id", "client_id"], kind.headerType.IsVacant name := by
  cases kind <;> decide

theorem DocumentKind.lineType_isVacant (kind : DocumentKind) :
    ∀ name ∈ ["header_id", "client_id"], kind.lineType.IsVacant name := by
  cases kind <;> decide

theorem Record.id?_eq_some {r : Record} {id : Nat} :
    r.id? = some id ↔ r.get? "id" = some (.identifier id) := by
  unfold Record.id?
  split
  · next n hId => simp [hId]
  · next hOther =>
    constructor
    · nofun
    · exact fun hId => absurd hId (hOther id)

namespace Database

theorem keptValue_eq {f : Field} {v kept : Value} (h : keptValue f v = .ok kept)
    (hPlain : ∀ d, v ≠ .decimal d) : kept = v := by
  unfold keptValue at h
  split at h
  · split at h
    · cases h
      rfl
    · cases h
  · exact absurd rfl (hPlain _)
  · cases h
    rfl

theorem keptEntry_name {r : Record} {f : Field} {entry : String × Option Value}
    (h : keptEntry r f = .ok entry) : entry.1 = f.name := by
  unfold keptEntry at h
  split at h
  · obtain ⟨kept, -, rfl⟩ := map_eq_ok.mp h
    rfl
  · cases h
    rfl

theorem keptEntry_eq {r : Record} {f : Field} {entry : String × Option Value}
    (h : keptEntry r f = .ok entry) (hVacant : f.default = none)
    (hPlain : ∀ d, r.get? f.name ≠ some (.decimal d)) : entry.2 = r.get? f.name := by
  unfold keptEntry at h
  rw [hVacant, Option.or_none] at h
  split at h
  · next v hv =>
    obtain ⟨kept, hKept, rfl⟩ := map_eq_ok.mp h
    rw [keptValue_eq hKept fun d hd => hPlain d (hd ▸ hv), hv]
  · next hNone =>
    cases h
    exact hNone.symm

/-- The first field of a name makes the first entry of that name. -/
theorem lookup_kept {r : Record} {fields : List Field} {entries : List (String × Option Value)}
    (h : fields.mapM (keptEntry r) = .ok entries) {name : String} {f : Field}
    (hField : fields.find? (fun f => f.name == name) = some f) :
    ∃ entry, keptEntry r f = .ok entry ∧ entries.lookup name = some entry.2 := by
  induction fields generalizing entries with
  | nil => cases hField
  | cons first rest ih =>
    rw [List.mapM_cons] at h
    obtain ⟨entry, hEntry, h⟩ := bind_eq_ok.mp h
    obtain ⟨more, hMore, h⟩ := bind_eq_ok.mp h
    cases h
    obtain ⟨entryName, value⟩ := entry
    obtain rfl : entryName = first.name := keptEntry_name hEntry
    by_cases hName : first.name = name
    · -- `find?` stops at this field, and `lookup` at its entry.
      subst hName
      obtain rfl : first = f := by simpa using hField
      exact ⟨_, hEntry, by simp⟩
    · have hNext : (name == first.name) = false := by simpa using Ne.symm hName
      rw [List.lookup_cons, hNext]
      exact ih hMore (by simpa [hName] using hField)

theorem type_keptRecord {r kept : Record} (h : keptRecord r = .ok kept) : kept.type = r.type := by
  obtain ⟨entries, -, rfl⟩ := map_eq_ok.mp h
  rfl

/-- A field without a value from the start holds what it held before. -/
theorem get?_keptRecord {r kept : Record} (h : keptRecord r = .ok kept) {name : String}
    (hVacant : r.type.IsVacant name) (hPlain : ∀ d, r.get? name ≠ some (.decimal d)) :
    kept.get? name = r.get? name := by
  obtain ⟨entries, hEntries, rfl⟩ := map_eq_ok.mp h
  obtain ⟨f, hField, hDefault⟩ := Option.map_eq_some_iff.mp hVacant
  obtain rfl : f.name = name := by simpa using List.find?_some hField
  obtain ⟨entry, hEntry, hFound⟩ := lookup_kept hEntries hField
  rw [Record.get?, hFound, keptEntry_eq hEntry hDefault hPlain]
  rfl

end Database

end Intake
