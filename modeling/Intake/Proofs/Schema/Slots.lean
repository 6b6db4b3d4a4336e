import Intake.Config.Source
import Intake.Proofs.Config.Accepted

/-! What is known of values that have been read by a schema: each slot has one, of the slot's shape
or its default. So every rule of a configuration that is read has a priority. -/

namespace Intake

namespace Schema

theorem complain_ne_nil {α : Type} {x : Except Complaint α} {vs : List Violation}
    (h : complain x = .error vs) : vs ≠ [] := by
  cases x <;> cases h
  exact List.cons_ne_nil _ _

/-- A value that is not of a shape violates it. -/
theorem Shape.read_ne_nil {shape : Shape} {value : Json} {vs : List Violation}
    (h : shape.read value = .error vs) : vs ≠ [] := by
  cases shape with
  | text limit => exact complain_ne_nil h
  | whole => exact complain_ne_nil h
  | truth => exact complain_ne_nil h
  | texts =>
    simp only [Shape.read] at h
    split at h
    · split at h
      · cases h
      · next hSome =>
        cases h
        exact hSome
    · cases h
      exact List.cons_ne_nil _ _

theorem Slot.read_ne_nil {slot : Slot} {members : List (String × Json)} {vs : List Violation}
    (h : slot.read members = .error vs) : vs ≠ [] := by
  unfold Slot.read at h
  split at h
  · split at h <;> cases h
    exact List.cons_ne_nil _ _
  · split at h
    · cases h
    · split at h
      · cases h
      · next hShape =>
        cases h
        simpa using Shape.read_ne_nil hShape

/-- The values that are found for slots. -/
def found (slots : List Slot) (members : List (String × Json)) : List (String × Json) :=
  slots.filterMap fun slot => (slot.read members).toOption.map fun value => (slot.name, value)

/-- Slots that are read have been found, each of them. -/
theorem readSlots_eq_ok {slots : List Slot} {members values : List (String × Json)}
    (h : readSlots slots members = .ok values) :
    values = found slots members ∧ ∀ slot ∈ slots, ∃ v, slot.read members = .ok v := by
  unfold readSlots at h
  dsimp only at h
  split at h
  · next hNone =>
    cases h
    refine ⟨by rw [found, List.filterMap_map]; rfl, fun slot hSlot => ?_⟩
    rw [List.isEmpty_iff, List.flatMap_eq_nil_iff] at hNone
    cases hRead : slot.read members with
    | ok v => exact ⟨v, rfl⟩
    | error vs =>
      have hEmpty := hNone _ (List.mem_map_of_mem hSlot)
      simp only [hRead] at hEmpty
      exact absurd hEmpty (Slot.read_ne_nil hRead)
  · cases h

/-- What is found for a slot stands under its name. -/
theorem lookup_found {slots : List Slot} {members : List (String × Json)} {slot : Slot} {v : Json}
    (hNames : (slots.map Slot.name).Nodup) (hSlot : slot ∈ slots)
    (hRead : slot.read members = .ok v) : (found slots members).lookup slot.name = some v := by
  induction slots with
  | nil => cases hSlot
  | cons first rest ih =>
    obtain ⟨hFirst, hRest⟩ := List.nodup_cons.mp hNames
    rcases List.mem_cons.mp hSlot with rfl | hLater
    · simp [found, hRead, Except.toOption]
    · have hOther : (slot.name == first.name) = false := by
        rw [beq_eq_false_iff_ne]
        intro hSame
        exact hFirst (hSame ▸ List.mem_map_of_mem hLater)
      have hTail := ih hRest hLater
      unfold found at hTail ⊢
      rw [List.filterMap_cons]
      cases (first.read members).toOption with
      | none => exact hTail
      | some value => rw [Option.map_some, List.lookup_cons, hOther, hTail]

theorem Shape.read_whole {value v : Json} (h : Shape.whole.read value = .ok v) :
    ∃ n, v = .whole n := by
  simp only [Shape.read] at h
  cases hWhole : readWhole value with
  | ok n =>
    rw [hWhole] at h
    cases h
    exact ⟨n, rfl⟩
  | error complaint =>
    rw [hWhole] at h
    cases h

/-- The value of a slot for a whole number is one, if its default is. -/
theorem Slot.read_whole {slot : Slot} {members : List (String × Json)} {v : Json}
    (hShape : slot.shape = .whole) (hNull : slot.isNullable = false)
    (hDefault : ∀ d, slot.default = some d → ∃ n, d = .whole n)
    (h : slot.read members = .ok v) : ∃ n, v = .whole n := by
  unfold Slot.read at h
  split at h
  · split at h
    · next hGiven =>
      cases h
      exact hDefault _ hGiven
    · cases h
  · split at h
    · next hNullable _ =>
      rw [hNull] at hNullable
      cases hNullable
    · split at h
      · next hValue =>
        cases h
        rw [hShape] at hValue
        exact Shape.read_whole hValue
      · cases h

end Schema

namespace Config

open Schema

theorem readPart_eq_ok {part : Part} {j : Json} {values : List (String × Json)}
    (h : readPart part j = .ok values) :
    ∃ members, j = .object members ∧ readSlots part.slots members = .ok values := by
  cases j with
  | object members =>
    simp only [readPart] at h
    split at h
    · next hRead =>
      cases h
      exact ⟨members, rfl, hRead⟩
    · cases h
  | _ => cases h

/-- A rule that is read has a priority. -/
theorem readRule_priority {j : Json} {rule : Rule} (h : readRule j = .ok rule) :
    rule.priority.isSome := by
  obtain ⟨values, hPart, rfl⟩ := map_eq_ok.mp h
  obtain ⟨members, rfl, hSlots⟩ := readPart_eq_ok hPart
  obtain ⟨rfl, hAll⟩ := readSlots_eq_ok hSlots
  let slot : Slot := { name := "priority", shape := .whole, default := some (.whole 0) }
  have hSlot : slot ∈ ruleSlots := by simp [ruleSlots, slot]
  obtain ⟨v, hRead⟩ := hAll slot hSlot
  obtain ⟨n, rfl⟩ := Slot.read_whole rfl rfl (fun d hd => ⟨0, (Option.some.inj hd).symm⟩) hRead
  have hFound : (found ruleSlots members).lookup "priority" = some (.whole n) :=
    lookup_found (by decide) hSlot hRead
  have hPriority : (ruleOf (found ruleSlots members)).priority = some n := by
    show wholeAt? (found ruleSlots members) "priority" = some n
    rw [wholeAt?, hFound]
  exact Option.isSome_iff_exists.mpr ⟨n, hPriority⟩

theorem read_eq_ok {source : Source} {c : Config} (h : source.read = .ok c) :
    ∃ j, ofJson j = .ok c := by
  cases source with
  | value j => exact ⟨j, h⟩
  | file path content =>
    cases content with
    | error reason => cases h
    | ok text =>
      obtain ⟨j, -, hRead⟩ := bind_eq_ok.mp h
      exact ⟨j, hRead⟩

/-- The rules of a configuration that is read have priorities. -/
theorem priority_of_read {source : Source} {c : Config} (h : source.read = .ok c) :
    ∀ rule ∈ c.rules, rule.priority.isSome := by
  obtain ⟨j, hRead⟩ := read_eq_ok h
  cases j with
  | object members =>
    obtain ⟨interface, -, hRead⟩ := bind_eq_ok.mp hRead
    obtain ⟨items, -, hRead⟩ := bind_eq_ok.mp hRead
    obtain ⟨rules, hRules, hRead⟩ := bind_eq_ok.mp hRead
    obtain ⟨rfl, -⟩ := check_eq_ok hRead
    intro rule hRule
    obtain ⟨item, -, hItem⟩ := (mapM_eq_ok hRules).2 rule hRule
    exact readRule_priority hItem
  | _ => cases hRead

end Config

end Intake
