import Intake.Record.Type

/-! Records: the values of the fields of a record type. -/

namespace Intake

/-- A record. Each field of its type has an entry, which may be without a value. -/
structure Record where
  type : RecordType
  entries : List (String × Option Value)
  deriving DecidableEq, Repr

namespace Record

/-- A record with the given values and otherwise those of a fresh record. -/
def ofValues (type : RecordType) (values : List (String × Option Value)) : Record :=
  ⟨type, type.fields.map fun f => (f.name, (values.lookup f.name).getD f.default)⟩

/-- A fresh record. -/
def fresh (type : RecordType) : Record := ofValues type []

def get? (r : Record) (name : String) : Option Value := (r.entries.lookup name).join

def set (r : Record) (name : String) (value : Value) : Record :=
  { r with entries := r.entries.map fun e => (e.1, if e.1 = name then some value else e.2) }

def id? (r : Record) : Option Nat :=
  match r.get? "id" with
  | some (.identifier n) => some n
  | _ => none

/-- The record without its identity. -/
def anonymous (r : Record) : Record :=
  { r with entries := r.entries.map fun e => (e.1, if e.1 = "id" then none else e.2) }

/-- The fields that have values, with those. -/
def values (r : Record) : List (String × Value) :=
  r.entries.filterMap fun e => e.2.map fun v => (e.1, v)

@[simp] theorem type_set (r : Record) (name : String) (value : Value) :
    (r.set name value).type = r.type := rfl

theorem lookup_map_entry {β γ : Type} (f : String → β → γ) (name : String)
    (es : List (String × β)) :
    (es.map fun e => (e.1, f e.1 e.2)).lookup name = (es.lookup name).map (f name) := by
  induction es with
  | nil => rfl
  | cons e es ih =>
    obtain ⟨k, v⟩ := e
    by_cases h : name = k
    · subst h; simp
    · have h : (name == k) = false := by simpa using h
      simp [List.lookup_cons, h, ih]

theorem lookup_isSome_of_mem {β : Type} {name : String} {es : List (String × β)}
    (h : name ∈ es.map Prod.fst) : (es.lookup name).isSome := by
  induction es with
  | nil => simp at h
  | cons e es ih =>
    obtain ⟨k, v⟩ := e
    by_cases hk : name = k
    · simp [hk]
    · have hk' : (name == k) = false := by simpa using hk
      have h : name ∈ es.map Prod.fst := by simpa [hk] using h
      simpa [List.lookup_cons, hk'] using ih h

/-- What giving a field a value does to every field. -/
theorem get?_set (r : Record) (name other : String) (value : Value) :
    (r.set name value).get? other =
      (((r.entries.lookup other).map fun v => if other = name then some value else v)).join := by
  simp only [get?, set]
  rw [lookup_map_entry (fun k v => if k = name then some value else v)]

/-- Giving one field a value leaves the others as they are. -/
theorem get?_set_of_ne {r : Record} {name other : String} {value : Value} (h : other ≠ name) :
    (r.set name value).get? other = r.get? other := by
  rw [get?_set]
  simp [get?, h]

/-- A field of the record has the value it was given. -/
theorem get?_set_self {r : Record} {name : String} {value : Value}
    (h : name ∈ r.entries.map Prod.fst) : (r.set name value).get? name = some value := by
  obtain ⟨v, hv⟩ := Option.isSome_iff_exists.1 (lookup_isSome_of_mem h)
  rw [get?_set]
  simp [hv]

end Record

end Intake
