import Mathlib.Data.List.Perm.Basic
import Intake.Plan
import Intake.Proofs.Groups

/-! The plan of a list of rules, told without the loop that makes it. Every line rule that takes
part stands in one group, the group of its parent path, as often as it is listed; the groups stand
in the order in which their parents first come up, and the rules of a group by descending rank,
those of one rank as they are listed. Listing the rules in another order changes neither the groups
nor their members. -/

namespace Intake.Plan

/-- A line rule that takes part. -/
def IsPlaced (r : Rule) : Prop := r.isActive = true ∧ r.hasSource = true ∧ r.parentPath ≠ ""

/-- A header rule that takes part. -/
def IsApplied (r : Rule) : Prop :=
  r.isActive = true ∧ (r.hasSource = true ∨ r.defaultValue.isSome = true)

instance : DecidablePred IsPlaced := fun _ => inferInstanceAs (Decidable (_ ∧ _ ∧ _))

instance : DecidablePred IsApplied := fun _ => inferInstanceAs (Decidable (_ ∧ _))

theorem lineSkip?_isNone (r : Rule) : (lineSkip? r).isNone = decide (IsPlaced r) := by
  unfold lineSkip? IsPlaced
  by_cases hActive : r.isActive = true
  · by_cases hSource : r.hasSource = true
    · by_cases hParent : r.parentPath = ""
      · simp [hActive, hSource, hParent]
      · simp [hActive, hSource, hParent]
    · simp [hActive, hSource]
  · simp [hActive]

theorem headerSkip?_isNone (r : Rule) : (headerSkip? r).isNone = decide (IsApplied r) := by
  unfold headerSkip? IsApplied
  by_cases hActive : r.isActive = true
  · by_cases hSource : r.hasSource = true
    · simp [hActive, hSource]
    · by_cases hDefault : r.defaultValue.isSome = true
      · obtain ⟨text, hText⟩ := Option.isSome_iff_exists.mp hDefault
        simp [hActive, hText]
      · have hMissing : r.defaultValue = none := by simpa using hDefault
        simp [hActive, hSource, hMissing]
  · simp [hActive]

/-- `ranked` holds the members of `rules`, each as often, by descending rank; those of one rank
stand as they stand in `rules`. -/
structure Ranked (rules ranked : List Rule) : Prop where
  perm : ranked.Perm rules
  descending : ranked.Pairwise fun a b => b.rank ≤ a.rank
  stable : ∀ k : Int, ranked.filter (·.rank = k) = rules.filter (·.rank = k)

theorem byRank_ranked (rules : List Rule) : Ranked rules (byRank rules) := by
  have hTrans : ∀ a b c : Rule, decide (b.rank ≤ a.rank) = true → decide (c.rank ≤ b.rank) = true →
      decide (c.rank ≤ a.rank) = true := by
    intro a b c hab hbc
    simp only [decide_eq_true_eq] at hab hbc ⊢
    exact Int.le_trans hbc hab
  have hTotal : ∀ a b : Rule, (decide (b.rank ≤ a.rank) || decide (a.rank ≤ b.rank)) = true := by
    intro a b
    simpa using Int.le_total b.rank a.rank
  have hPerm : (byRank rules).Perm rules := List.mergeSort_perm rules _
  refine ⟨hPerm, ?_, fun k => ?_⟩
  · have hPairs := List.pairwise_mergeSort hTrans hTotal rules
    exact hPairs.imp fun h => by simpa using h
  · -- the rules of one rank are in order already, so sorting keeps them as a sublist
    have hSorted : (rules.filter (·.rank = k)).Pairwise fun a b => decide (b.rank ≤ a.rank) = true := by
      rw [List.pairwise_iff_forall_sublist]
      intro a b hab
      have ha : a ∈ rules.filter (·.rank = k) := hab.subset (by simp)
      have hb : b ∈ rules.filter (·.rank = k) := hab.subset (by simp)
      have haRank : a.rank = k := by simpa using (List.mem_filter.mp ha).2
      have hbRank : b.rank = k := by simpa using (List.mem_filter.mp hb).2
      simp [haRank, hbRank]
    have hSub : (rules.filter (·.rank = k)).Sublist (byRank rules) :=
      List.sublist_mergeSort hTrans hTotal hSorted List.filter_sublist
    have hKept : (rules.filter (·.rank = k)).Sublist ((byRank rules).filter (·.rank = k)) := by
      have hFiltered := hSub.filter (·.rank = k)
      simpa only [List.filter_filter, Bool.and_self] using hFiltered
    have hLength := (hPerm.filter fun r => decide (r.rank = k)).length_eq
    exact (hKept.eq_of_length hLength.symm).symm

/-- The groups of rules that all take part, before their members are ranked. -/
def grouped (rules : List Rule) : List LineGroup :=
  (rules.map Rule.parentPath).eraseDups.map fun p => ⟨p, rules.filter (·.parentPath = p)⟩

/-- Rules join groups by their parent paths. -/
theorem foldl_addToGroup (rules : List Rule) : rules.foldl addToGroup [] = grouped rules := by
  let asGroup (g : String × List Rule) : LineGroup := ⟨g.1, g.2⟩
  have hJoin : ∀ groups r, addToGroup (groups.map asGroup) r =
      (joinGroup Rule.parentPath groups r).map asGroup := by
    intro groups r
    have hKey : (groups.map asGroup).any (·.parent == r.parentPath) =
        groups.any (·.1 == r.parentPath) := List.any_map
    unfold addToGroup joinGroup
    rw [hKey]
    split
    · rw [List.map_map, List.map_map]
      refine List.map_congr_left fun g _ => ?_
      dsimp only [Function.comp, asGroup]
      split <;> rfl
    · rw [List.map_append]
      rfl
  have hFold : rules.foldl addToGroup ([].map asGroup) =
      (rules.foldl (joinGroup Rule.parentPath) []).map asGroup :=
    List.foldl_hom (List.map asGroup) hJoin
  rw [foldl_joinGroup, List.map_nil] at hFold
  rw [hFold, groupsBy, List.map_map]
  rfl

/-- The groups of the rules that take part, each with its members by rank. -/
theorem groupsOf_eq (rules : List Rule) :
    groupsOf rules = ((rules.filter (IsPlaced ·)).map Rule.parentPath).eraseDups.map fun p =>
      ⟨p, byRank (rules.filter fun r => decide (IsPlaced r ∧ r.parentPath = p))⟩ := by
  have hPlaced : rules.filter (fun r => (lineSkip? r).isNone) = rules.filter (IsPlaced ·) :=
    List.filter_congr fun r _ => lineSkip?_isNone r
  simp only [groupsOf, hPlaced, foldl_addToGroup, grouped, List.map_map]
  refine List.map_congr_left fun p _ => ?_
  simp only [Function.comp, List.filter_filter, Bool.decide_and, Bool.and_comm]

/-- `groups` holds every line rule that takes part once for each time it is listed, in the one group
of its parent path, and no other rule. -/
structure Partitioned (rules : List Rule) (groups : List LineGroup) : Prop where
  /-- The parents stand in the order in which they first come up. -/
  parents : groups.map (·.parent) = ((rules.filter (IsPlaced ·)).map Rule.parentPath).eraseDups
  distinct : (groups.map (·.parent)).Nodup
  members : ∀ g ∈ groups,
    Ranked (rules.filter fun r => decide (IsPlaced r ∧ r.parentPath = g.parent)) g.rules
  whole : (groups.flatMap (·.rules)).Perm (rules.filter (IsPlaced ·))
  own : ∀ r ∈ rules, IsPlaced r → ∃! g, g ∈ groups ∧ r ∈ g.rules
  keyed : ∀ g ∈ groups, ∀ r ∈ g.rules, r ∈ rules ∧ IsPlaced r ∧ r.parentPath = g.parent

/-- Lists of the members under each of several parents, one after the other, hold the members under
any of them. -/
theorem flatMap_perm (rules : List Rule) {parents : List String} (hNodup : parents.Nodup) :
    (parents.flatMap fun p => rules.filter (·.parentPath = p)).Perm
      (rules.filter (·.parentPath ∈ parents)) := by
  induction parents with
  | nil => simp
  | cons p rest ih =>
    obtain ⟨hFirst, hRest⟩ := List.nodup_cons.mp hNodup
    have hHead : (rules.filter (·.parentPath ∈ p :: rest)).filter (·.parentPath = p) =
        rules.filter (·.parentPath = p) := by
      rw [List.filter_filter]
      refine List.filter_congr fun r _ => ?_
      by_cases hSame : r.parentPath = p <;> simp [hSame]
    have hTail : (rules.filter (·.parentPath ∈ p :: rest)).filter (fun r => !r.parentPath = p) =
        rules.filter (·.parentPath ∈ rest) := by
      rw [List.filter_filter]
      refine List.filter_congr fun r _ => ?_
      by_cases hSame : r.parentPath = p
      · simp [hSame, hFirst]
      · simp [hSame]
    have hSplit := List.filter_append_perm (fun r : Rule => decide (r.parentPath = p))
      (rules.filter (·.parentPath ∈ p :: rest))
    rw [List.flatMap_cons]
    refine ((ih hRest).append_left _).trans ?_
    rwa [hHead, hTail] at hSplit

/-- The groups of a list of rules are told by the rules alone. -/
theorem groupsOf_partitioned (rules : List Rule) : Partitioned rules (groupsOf rules) := by
  have hParents : (groupsOf rules).map (·.parent) =
      ((rules.filter (IsPlaced ·)).map Rule.parentPath).eraseDups := by
    rw [groupsOf_eq, List.map_map]
    exact List.map_id _
  have hNodup : ((groupsOf rules).map (·.parent)).Nodup := by
    rw [hParents]
    exact eraseDups_nodup _
  have hMembers : ∀ g ∈ groupsOf rules,
      Ranked (rules.filter fun r => decide (IsPlaced r ∧ r.parentPath = g.parent)) g.rules := by
    intro g hg
    rw [groupsOf_eq] at hg
    obtain ⟨p, -, rfl⟩ := List.mem_map.mp hg
    exact byRank_ranked _
  have hKeyed : ∀ g ∈ groupsOf rules, ∀ r ∈ g.rules,
      r ∈ rules ∧ IsPlaced r ∧ r.parentPath = g.parent := by
    intro g hg r hr
    have hIn := (hMembers g hg).perm.mem_iff.mp hr
    simpa using List.mem_filter.mp hIn
  refine ⟨hParents, hNodup, hMembers, ?_, ?_, hKeyed⟩
  · have hFlat := flatMap_perm (rules.filter (IsPlaced ·))
      (eraseDups_nodup ((rules.filter (IsPlaced ·)).map Rule.parentPath))
    have hAll : (rules.filter (IsPlaced ·)).filter
        (·.parentPath ∈ ((rules.filter (IsPlaced ·)).map Rule.parentPath).eraseDups) =
        rules.filter (IsPlaced ·) := by
      rw [List.filter_eq_self]
      intro r hr
      exact decide_eq_true (List.mem_eraseDups.mpr (List.mem_map_of_mem hr))
    rw [hAll] at hFlat
    refine List.Perm.trans ?_ hFlat
    rw [groupsOf_eq, List.flatMap_map]
    refine List.Perm.flatMap_left _ fun p _ => ?_
    refine (byRank_ranked _).perm.trans (List.Perm.of_eq ?_)
    simp only [List.filter_filter, Bool.decide_and, Bool.and_comm]
  · intro r hr hPlaced
    have hKey : r.parentPath ∈ (groupsOf rules).map (·.parent) := by
      rw [hParents, List.mem_eraseDups]
      exact List.mem_map_of_mem (List.mem_filter.mpr ⟨hr, decide_eq_true hPlaced⟩)
    obtain ⟨g, hg, hParent⟩ := List.mem_map.mp hKey
    have hIn : r ∈ g.rules := by
      refine (hMembers g hg).perm.mem_iff.mpr (List.mem_filter.mpr ⟨hr, ?_⟩)
      exact decide_eq_true ⟨hPlaced, hParent.symm⟩
    refine ⟨g, ⟨hg, hIn⟩, ?_⟩
    intro other hOther
    have hSame : other.parent = g.parent := by
      rw [← (hKeyed other hOther.1 r hOther.2).2.2, hParent]
    exact List.inj_on_of_nodup_map hNodup hOther.1 hg hSame

/-- Rules told apart by their ranks are ranked in one way. -/
theorem Ranked.unique {rules others ranked ranked' : List Rule} (h : Ranked rules ranked)
    (h' : Ranked others ranked') (hPerm : others.Perm rules)
    (hRanks : (ranked.map Rule.rank).Nodup) : ranked' = ranked := by
  have hSame : ranked'.Perm ranked := h'.perm.trans (hPerm.trans h.perm.symm)
  refine List.Perm.eq_of_pairwise ?_ h'.descending h.descending hSame
  intro a b ha hb hab hba
  have hRank : a.rank = b.rank := Int.le_antisymm hba hab
  exact List.inj_on_of_nodup_map hRanks (hSame.mem_iff.mp ha) hb hRank

/-- `others` has the parents of `groups` and under each of them the same rules, in the same order
where their ranks tell them apart. -/
structure SameGroups (groups others : List LineGroup) : Prop where
  parents : ∀ p, p ∈ others.map (·.parent) ↔ p ∈ groups.map (·.parent)
  members : ∀ g ∈ groups, ∀ o ∈ others, o.parent = g.parent → o.rules.Perm g.rules
  order : ∀ g ∈ groups, ∀ o ∈ others, o.parent = g.parent → (g.rules.map Rule.rank).Nodup →
    o.rules = g.rules

theorem Partitioned.sameGroups {rules permuted : List Rule} {groups others : List LineGroup}
    (h : Partitioned rules groups) (h' : Partitioned permuted others)
    (hPerm : permuted.Perm rules) : SameGroups groups others := by
  have hFiltered : ∀ p : String,
      (permuted.filter fun r => decide (IsPlaced r ∧ r.parentPath = p)).Perm
        (rules.filter fun r => decide (IsPlaced r ∧ r.parentPath = p)) :=
    fun p => hPerm.filter _
  refine ⟨fun p => ?_, ?_, ?_⟩
  · rw [h.parents, h'.parents, List.mem_eraseDups, List.mem_eraseDups]
    exact ((hPerm.filter _).map _).mem_iff
  · intro g hg o ho hSame
    have hOther := (h'.members o ho).perm
    rw [hSame] at hOther
    exact (hOther.trans (hFiltered g.parent)).trans (h.members g hg).perm.symm
  · intro g hg o ho hSame hRanks
    have hOther := h'.members o ho
    rw [hSame] at hOther
    exact (h.members g hg).unique hOther (hFiltered g.parent) hRanks

/-- A plan holds the line rules that take part in the groups of their parent paths and the header
rules that take part, all of them by rank; another order of the line rules makes the same groups. -/
theorem ofRules_partitions (headerRules lineRules : List Rule) :
    Partitioned lineRules (ofRules headerRules lineRules).value.groups ∧
      (ofRules headerRules lineRules).value.lineRuleCount =
        (lineRules.filter (IsPlaced ·)).length ∧
      Ranked (headerRules.filter (IsApplied ·)) (ofRules headerRules lineRules).value.headerRules ∧
      ∀ permuted : List Rule, permuted.Perm lineRules →
        SameGroups (ofRules headerRules lineRules).value.groups
          (ofRules headerRules permuted).value.groups := by
  have hGroups : ∀ rules, (ofRules headerRules rules).value.groups = groupsOf rules := fun _ => rfl
  have hHeader : (ofRules headerRules lineRules).value.headerRules = headerRulesOf headerRules := rfl
  have hParted := groupsOf_partitioned lineRules
  rw [hGroups, hHeader]
  refine ⟨hParted, hParted.whole.length_eq, ?_, ?_⟩
  · have hApplied : headerRules.filter (fun r => (headerSkip? r).isNone) =
        headerRules.filter (IsApplied ·) := List.filter_congr fun r _ => headerSkip?_isNone r
    rw [headerRulesOf, hApplied]
    exact byRank_ranked _
  · intro permuted hPerm
    rw [hGroups]
    exact hParted.sameGroups (groupsOf_partitioned permuted) hPerm

/-- A line rule that takes part if its path has a parent. -/
def lineRule (name path : String) (priority : Option Int) : Rule :=
  { name, targetField := name, tableName := "ORDER_LINE", sourcePath := some path, priority }

theorem ofRules_partitions_reversed :
    let code := lineRule "code" "/Order/Line/Code" (some 2)
    let amount := lineRule "amount" "/Order/Line/Amount" none
    let note := lineRule "note" "/Order/Notes/Note" (some 1)
    [note, amount, code].Perm [code, amount, note] ∧
      SameGroups (ofRules [] [code, amount, note]).value.groups
        (ofRules [] [note, amount, code]).value.groups := by
  intro code amount note
  have hPerm : [note, amount, code].Perm [code, amount, note] := by decide +kernel
  exact ⟨hPerm, (ofRules_partitions [] [code, amount, note]).2.2.2 _ hPerm⟩

end Intake.Plan
