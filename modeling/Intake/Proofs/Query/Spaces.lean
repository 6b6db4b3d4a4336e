import Intake.Proofs.Xml.Declared
import Intake.Query.Basic

/-! Which tables of namespaces paths can be evaluated with. The namespaces of a document that was read
make such a table. -/

namespace Intake.Query

open Xml XPath

variable {spaces : Spaces}

/-- A table that paths can be evaluated with. -/
def IsUsable (spaces : Spaces) : Prop :=
  ∀ entry ∈ spaces, IsNonemptyText entry.1 ∧ IsNonemptyText entry.2

theorem spacesFault?_eq_none_iff : spacesFault? spaces = none ↔ IsUsable spaces := by
  rw [spacesFault?, List.findSome?_eq_none_iff]
  refine forall₂_congr fun entry _ => ?_
  obtain ⟨qualifier, space⟩ := entry
  have hAll : (qualifier.toList.all isChar && space.toList.all isChar) = true ↔
      IsText qualifier ∧ IsText space := by
    rw [Bool.and_eq_true, List.all_eq_true, List.all_eq_true]
    rfl
  by_cases hQualifier : qualifier = ""
  · simp [hQualifier, IsNonemptyText]
  · by_cases hSpace : space = ""
    · simp [hQualifier, hSpace, IsNonemptyText]
    · simp [hQualifier, hSpace, IsNonemptyText, ← hAll]

theorem spacesFault?_eq_none (h : IsUsable spaces) : spacesFault? spaces = none :=
  spacesFault?_eq_none_iff.mpr h

theorem addSpace_isUsable {qualifier space : String} (h : IsUsable spaces)
    (hQualifier : IsNonemptyText qualifier) (hSpace : IsNonemptyText space) :
    IsUsable (addSpace spaces qualifier space) := by
  unfold addSpace
  split
  · exact h
  · intro entry hEntry
    rcases List.mem_append.mp hEntry with hEntry | hEntry
    · exact h entry hEntry
    · obtain rfl := List.mem_singleton.mp hEntry
      exact ⟨hQualifier, hSpace⟩

theorem qualified_isUsable {ds : List Declaration} (hDeclared : ∀ d ∈ ds, d.IsUsable) :
    IsUsable (qualified ds) := by
  unfold qualified
  suffices hFrom : ∀ spaces, IsUsable spaces → IsUsable (ds.foldl _ spaces) from
    hFrom [] fun _ hEntry => by cases hEntry
  induction ds with
  | nil => exact fun _ h => h
  | cons d ds ih =>
    intro spaces h
    refine ih (fun d hd => hDeclared d (List.mem_cons_of_mem _ hd)) _ ?_
    obtain ⟨hText, hQualified⟩ := hDeclared d List.mem_cons_self
    dsimp only
    split
    · rename_i q hQualifier
      obtain ⟨hName, hSpace⟩ := hQualified q hQualifier
      exact addSpace_isUsable h hName ⟨hSpace, hText⟩
    · exact h

/-- The namespaces of a document make a table that can be used, unless the qualifier that stands for
the default one cannot. -/
theorem spacesOf_isUsable {d : Document} {q : String}
    (hDeclared : ∀ i tag, d.tag? i = some tag → tag.IsUsable)
    (hDefault : IsNonemptyText q ∨ defaultSpace? (declarations d) = none) :
    IsUsable (spacesOf q d) := by
  have hAll : ∀ δ ∈ declarations d, δ.IsUsable := by
    intro δ hδ
    obtain ⟨i, -, hδ⟩ := List.mem_flatMap.mp hδ
    cases hTag : d.tag? i with
    | none => simp [hTag] at hδ
    | some tag => exact hDeclared i tag hTag δ (by simpa [hTag] using hδ)
  unfold spacesOf
  dsimp only
  split
  · rename_i space hSpace
    have hName : IsNonemptyText q := hDefault.resolve_right (by simp [hSpace])
    obtain ⟨δ, hδ, hFound⟩ := List.exists_of_findSome?_eq_some hSpace
    split at hFound <;> cases hFound
    rename_i hPlain
    refine addSpace_isUsable (qualified_isUsable hAll) hName ⟨?_, (hAll δ hδ).1⟩
    simpa using (Bool.and_eq_true_iff.mp hPlain).2
  · exact qualified_isUsable hAll

end Intake.Query
