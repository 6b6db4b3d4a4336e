import Mathlib.Data.List.Induction
import Mathlib.Data.List.Nodup

/-! Groups that are collected one member at a time. Each key has one group, with all members of that
key in the order in which they came; the groups stand in the order in which their keys first came. -/

namespace Intake

theorem eraseDups_concat (keys : List String) (k : String) :
    (keys ++ [k]).eraseDups = if k ∈ keys then keys.eraseDups else keys.eraseDups ++ [k] := by
  rw [List.eraseDups_append]
  by_cases hMem : k ∈ keys
  · simp [List.removeAll, hMem]
  · simp [List.removeAll, hMem, List.eraseDups_cons]

theorem eraseDups_nodup (keys : List String) : keys.eraseDups.Nodup := by
  induction keys using List.reverseRecOn with
  | nil => simp
  | append_singleton keys k ih =>
    rw [eraseDups_concat]
    split
    · exact ih
    · rename_i hNew
      rw [← List.concat_eq_append]
      exact ih.concat fun hOld => hNew (List.mem_eraseDups.mp hOld)

/-- In front of the first occurrence of a key there are only the keys that come before it when each
is taken once. -/
theorem eraseDups_eq_append_cons {keys before after : List String} {k : String}
    (h : keys.eraseDups = before ++ k :: after) :
    ∃ front back, keys = front ++ k :: back ∧ ∀ other ∈ front, other ∈ before := by
  induction keys using List.reverseRecOn generalizing after with
  | nil => simp at h
  | append_singleton keys last ih =>
    rw [eraseDups_concat] at h
    split at h
    · obtain ⟨front, back, rfl, hFront⟩ := ih h
      exact ⟨front, back ++ [last], by simp, hFront⟩
    · rcases List.eq_nil_or_concat after with rfl | ⟨after, final, rfl⟩
      · obtain ⟨hBefore, hLast⟩ := List.append_inj' h rfl
        obtain rfl := List.singleton_inj.mp hLast
        refine ⟨keys, [], rfl, fun other hOther => ?_⟩
        exact hBefore ▸ List.mem_eraseDups.mpr hOther
      · rw [List.concat_eq_append, ← List.cons_append, ← List.append_assoc] at h
        obtain ⟨hKeys, -⟩ := List.append_inj' h rfl
        obtain ⟨front, back, rfl, hFront⟩ := ih hKeys
        exact ⟨front, back ++ [last], by simp, hFront⟩

section Groups

variable {α : Type} (key : α → String)

/-- Adds a member at the end of the group of its key; the first member of a group founds it. -/
def joinGroup (groups : List (String × List α)) (a : α) : List (String × List α) :=
  if groups.any (·.1 == key a) then
    groups.map fun g => if g.1 = key a then (g.1, g.2 ++ [a]) else g
  else groups ++ [(key a, [a])]

/-- The groups of some members. -/
def groupsBy (members : List α) : List (String × List α) :=
  (members.map key).eraseDups.map fun k => (k, members.filter (key · == k))

theorem joinGroup_groupsBy (members : List α) (a : α) :
    joinGroup key (groupsBy key members) a = groupsBy key (members ++ [a]) := by
  have hKey : (groupsBy key members).any (·.1 == key a) = decide (key a ∈ members.map key) := by
    rw [Bool.eq_iff_iff, List.any_eq_true]
    simp [groupsBy]
  unfold joinGroup
  rw [hKey]
  simp only [decide_eq_true_eq]
  split
  · rename_i hOld
    simp only [groupsBy, List.map_append, List.map_cons, List.map_nil, eraseDups_concat,
      if_pos hOld, List.map_map]
    refine List.map_congr_left fun k _ => ?_
    by_cases hSame : k = key a
    · simp [hSame]
    · simp [hSame, Ne.symm hSame]
  · rename_i hNew
    have hNone : members.filter (key · == key a) = [] := by
      rw [List.filter_eq_nil_iff]
      intro other hOther hSame
      exact hNew (List.mem_map.mpr ⟨other, hOther, by simpa using hSame⟩)
    simp only [groupsBy, List.map_append, List.map_cons, List.map_nil, eraseDups_concat,
      if_neg hNew]
    congr 1
    · refine List.map_congr_left fun k hk => ?_
      have hOther : key a ≠ k := fun hSame => hNew (hSame ▸ List.mem_eraseDups.mp hk)
      simp [hOther]
    · simp [hNone]

theorem foldl_joinGroup (members : List α) :
    members.foldl (joinGroup key) [] = groupsBy key members := by
  induction members using List.reverseRecOn with
  | nil => rfl
  | append_singleton members a ih => rw [List.foldl_concat, ih, joinGroup_groupsBy]

end Groups

end Intake
