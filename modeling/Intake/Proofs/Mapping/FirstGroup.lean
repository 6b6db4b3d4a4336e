import Intake.Proofs.Mapping.Accounts
import Intake.Proofs.Mapping.Alike

/-! Which group tries a node. A group matches the nodes at its path, and other nodes only if there are
none at its path; of the groups that match a node the first one tries it. So one group more makes no
difference to the nodes that it does not match, except that their lines are counted further on. -/

namespace Intake.Mapping

open Xml XPath

/-- The nodes at the path of a group. -/
def configuredNodes (s : Scene) (n : Node) (group : LineGroup) : List Nat :=
  if group.parent.isEmpty then []
  else (Query.elements s.document s.spaces n group.parent).value.toOption.getD []

section Visits

variable {s : Scene} {n : Node} {group : LineGroup}

/-- A group matches the nodes at its path if there are any. -/
theorem nodes_visitOf (h : configuredNodes s n group ≠ []) :
    (visitOf s n group).nodes = configuredNodes s n group := by
  by_cases hPath : group.parent.isEmpty
  · simp [configuredNodes, hPath] at h
  · have hFound : configuredNodes s n group =
        (Query.elements s.document s.spaces n group.parent).value.toOption.getD [] := if_neg hPath
    rw [hFound] at h ⊢
    rw [visitOf, Query.findLines_eq, if_neg hPath, Logged.value_bind]
    generalize (Query.elements s.document s.spaces n group.parent).value = found at h ⊢
    cases found with
    | error e => exact absurd rfl h
    | ok nodes =>
      cases nodes with
      | nil => exact absurd rfl h
      | cons first rest => rfl

theorem visitOf_pairwise (s : Scene) (n : Node) (group : LineGroup) :
    (visitOf s n group).nodes.Pairwise (· < ·) := by
  rw [visitOf, Visit.nodes]
  cases hFound : (Query.findLines s.chains.settings s.document s.spaces n group.parent).value with
  | error e => exact .nil
  | ok found => exact Query.findLines_pairwise hFound

end Visits

section Tries

variable {s : Scene} {checks : Checks} {fresh : Nat → Nat → Record} {trail : Trail} {id : Nat}
  {visits visits' : List Visit} {turns turns' before : List Turn} {t t' : Tally}
  {place index node : Nat} {result : LineResult} {visit : Visit}

theorem mem_take_of_getElem? {α : Type} {l : List α} {i k : Nat} {a : α} (h : l[i]? = some a)
    (hLt : i < k) : a ∈ l.take k :=
  List.mem_of_getElem? ((List.getElem?_take_of_lt hLt).trans h)

/-- A node is tried at the first place whose group matches it. -/
theorem FirstTry.place_eq
    (h : FirstTry s checks fresh id visits before place index node result visit) {first : Nat}
    {other : Visit} (hOther : visits[first]? = some other) (hNode : node ∈ other.nodes)
    (hFirst : ∀ earlier ∈ visits.take first, node ∉ earlier.nodes) : place = first := by
  have hMatched : node ∈ visit.nodes := List.mem_of_getElem? h.matched.2
  rcases Nat.lt_trichotomy place first with hLt | hSame | hLt
  · exact absurd hMatched (hFirst visit (mem_take_of_getElem? h.visited hLt))
  · exact hSame
  · exact absurd hNode (h.first other (mem_take_of_getElem? hOther hLt))

/-- A node that is tried in one run is tried by the same group in another run in which no group before
that one matches it, and with a result that is alike. -/
theorem Accounts.tried_alike
    (hFresh : ∀ id number id' number', (fresh id number).Alike (fresh id' number'))
    (hChecks : ∀ a b : Record, a.Alike b → checks.line a = checks.line b)
    (h : Accounts s checks fresh trail id visits turns t)
    (h' : Accounts s checks fresh trail id visits' turns' t')
    (hOrder : ∀ visit ∈ visits, visit.nodes.Pairwise (· < ·))
    (hTurn : .tried place index node result ∈ turns) {place' : Nat}
    (hVisit : visits'[place']? = visits[place]?)
    (hFirst : ∀ earlier ∈ visits'.take place', node ∉ earlier.nodes) :
    ∃ result', .tried place' index node result' ∈ turns' ∧ result.Alike result' := by
  obtain ⟨before, after, hSplit⟩ := List.append_of_mem hTurn
  obtain ⟨visit, hTry⟩ := h.tried before place index node result after hSplit
  have hMatched : node ∈ visit.nodes := List.mem_of_getElem? hTry.matched.2
  have hHere : visits'[place']? = some visit := hVisit.trans hTry.visited
  have hTried : node ∈ triedNodes turns' := h'.covered visit (List.mem_of_getElem? hHere) node hMatched
  obtain ⟨turn, hMem, hNode⟩ := List.mem_filterMap.mp hTried
  match turn, hMem, hNode with
  | .tried first index' _ result', hMem, rfl =>
    obtain ⟨before', after', hSplit'⟩ := List.append_of_mem hMem
    obtain ⟨visit', hTry'⟩ := h'.tried before' first index' node result' after' hSplit'
    obtain rfl : first = place' := hTry'.place_eq hHere hMatched hFirst
    obtain rfl : visit' = visit := Option.some.inj (hTry'.visited.symm.trans hHere)
    -- The entry of a line has its number among the nodes of its group, so it must be the same.
    have hIndex : index - 1 = index' - 1 := by
      have hNodup : visit'.nodes.Nodup :=
        (hOrder visit' (List.mem_of_getElem? hTry.visited)).imp Nat.ne_of_lt
      have hLt := (List.getElem?_eq_some_iff.mp hTry.matched.2).1
      exact (List.getElem?_inj hLt hNodup).mp (hTry.matched.2.trans hTry'.matched.2.symm)
    obtain rfl : index = index' := by
      have hPositive := hTry.matched.1
      have hPositive' := hTry'.matched.1
      omega
    have hAlike := bindLine_alike (s := s) (n := .row node) hChecks
      (hFresh (id + (triedNodes before).length) (1 + (boundRecords before).length)
        (id + (triedNodes before').length) (1 + (boundRecords before').length))
      visit'.group index
    rw [hTry.result, hTry'.result] at hAlike
    cases hAlike with
    | ok hResults => exact ⟨result', hMem, hResults⟩

end Tries

section Extra

variable {s : Scene} {checks : Checks} {fresh : Nat → Nat → Record} {trail : Trail} {id : Nat}
  {n : Node} {before after : List LineGroup} {extra : LineGroup} {turns turns' : List Turn}
  {t t' : Tally} {place index node : Nat} {result : LineResult}

theorem getElem?_insert {α : Type} {l l' : List α} {a : α} {i : Nat} (h : l.length ≤ i) :
    (l ++ a :: l')[i + 1]? = (l ++ l')[i]? := by
  rw [List.getElem?_append_right (by omega), List.getElem?_append_right h,
    show i + 1 - l.length = i - l.length + 1 by omega, List.getElem?_cons_succ]

theorem mem_take_insert {α : Type} {l l' : List α} {a b : α} {i : Nat} (h : l.length ≤ i) :
    b ∈ (l ++ a :: l').take (i + 1) ↔ b ∈ (l ++ l').take i ∨ b = a := by
  rw [List.take_append, List.take_append, List.take_of_length_le h,
    List.take_of_length_le (Nat.le_succ_of_le h),
    show i + 1 - l.length = i - l.length + 1 by omega, List.take_succ_cons]
  simp only [List.mem_append, List.mem_cons]
  constructor
  · rintro (hBefore | rfl | hAfter)
    · exact .inl (.inl hBefore)
    · exact .inr rfl
    · exact .inl (.inr hAfter)
  · rintro ((hBefore | hAfter) | rfl)
    · exact .inl hBefore
    · exact .inr (.inr hAfter)
    · exact .inr (.inl rfl)

/-- A group more makes no difference to the groups behind it, save for the nodes that it matches. -/
theorem Accounts.tried_insert
    (hFresh : ∀ id number id' number', (fresh id number).Alike (fresh id' number'))
    (hChecks : ∀ a b : Record, a.Alike b → checks.line a = checks.line b)
    (h : Accounts s checks fresh trail id ((before ++ after).map (visitOf s n)) turns t)
    (h' : Accounts s checks fresh trail id ((before ++ extra :: after).map (visitOf s n)) turns' t')
    (hPlace : before.length ≤ place) :
    (node ∉ (visitOf s n extra).nodes → .tried place index node result ∈ turns →
      ∃ result', .tried (place + 1) index node result' ∈ turns' ∧ result.Alike result') ∧
    (.tried (place + 1) index node result ∈ turns' →
      ∃ result', .tried place index node result' ∈ turns ∧ result.Alike result') := by
  have hOrder : ∀ groups : List LineGroup, ∀ visit ∈ groups.map (visitOf s n),
      visit.nodes.Pairwise (· < ·) := by
    intro groups visit hVisit
    obtain ⟨group, -, rfl⟩ := List.mem_map.mp hVisit
    exact visitOf_pairwise s n group
  have hLength : (before.map (visitOf s n)).length ≤ place := by rwa [List.length_map]
  have hVisits : ((before ++ extra :: after).map (visitOf s n))[place + 1]? =
      ((before ++ after).map (visitOf s n))[place]? := by
    simp only [List.map_append, List.map_cons]
    exact getElem?_insert hLength
  have hEarlier : ∀ earlier, earlier ∈ ((before ++ extra :: after).map (visitOf s n)).take (place + 1) ↔
      earlier ∈ ((before ++ after).map (visitOf s n)).take place ∨ earlier = visitOf s n extra := by
    intro earlier
    simp only [List.map_append, List.map_cons]
    exact mem_take_insert hLength
  constructor
  · intro hFree hTurn
    refine h.tried_alike hFresh hChecks h' (hOrder _) hTurn hVisits ?_
    intro earlier hMem
    obtain ⟨done, rest, hSplit⟩ := List.append_of_mem hTurn
    obtain ⟨visit, hTry⟩ := h.tried done place index node result rest hSplit
    rcases (hEarlier earlier).mp hMem with hMem | rfl
    · exact hTry.first earlier hMem
    · exact hFree
  · intro hTurn
    refine h'.tried_alike hFresh hChecks h (hOrder _) hTurn hVisits.symm ?_
    intro earlier hMem
    obtain ⟨done, rest, hSplit⟩ := List.append_of_mem hTurn
    obtain ⟨visit, hTry⟩ := h'.tried done (place + 1) index node result rest hSplit
    exact hTry.first earlier ((hEarlier earlier).mpr (.inl hMem))

end Extra

end Intake.Mapping
