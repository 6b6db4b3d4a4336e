import Intake.Proofs.Mapping.Apply
import Intake.Proofs.Trail

/-! The turns of going through the lines of a document. Groups and nodes are gone through in two nested
loops; every group that is skipped and every node that is tried is one turn, and a node has its first
try under the first group that matches it. -/

namespace Intake.Mapping

open Xml XPath

/-- A group and the nodes that were found for it, as far as they have been gone through. -/
structure Visit where
  group : LineGroup
  found : Except Query.Failure (List Nat)

/-- The nodes of a visit; a group that is skipped has none. -/
def Visit.nodes (v : Visit) : List Nat := (v.found.toOption).getD []

/-- The entry about a group whose path cannot be evaluated. -/
def groupEntry (group : LineGroup) (refusal : Query.Refusal) : String :=
  "Line group " ++ group.parent ++ ": " ++ refusal.message

/-- The entry of a visit of a group that is skipped. -/
def Visit.skip? (v : Visit) : Option String :=
  match v.found with
  | .error (.refused refusal) => some (groupEntry v.group refusal)
  | _ => none

/-- The group at a place is skipped, or tries a node, which has a number among all nodes that the
group matches, counted from 1. -/
inductive Turn where
  | skipped (place : Nat) (entry : String)
  | tried (place index node : Nat) (result : LineResult)

namespace Turn

/-- The place of the group whose turn it is. -/
def place : Turn → Nat
  | skipped place _ => place
  | tried place _ _ _ => place

/-- The node that is tried. -/
def node? : Turn → Option Nat
  | skipped _ _ => none
  | tried _ _ node _ => some node

/-- The line that is bound. -/
def line? : Turn → Option Record
  | tried _ _ _ (.bound line) => some line
  | _ => none

/-- The entry about a node that is left out. -/
def failure? : Turn → Option String
  | tried _ _ _ (.excluded entry) => some entry
  | _ => none

/-- The entry about a group that is skipped, with the place of the group. -/
def skip? : Turn → Option (Nat × String)
  | skipped place entry => some (place, entry)
  | _ => none

/-- The entry that a turn leaves in the trail, which is kept without blanks around it. -/
def entry? : Turn → Option String
  | skipped _ entry => some (Text.trim entry)
  | tried _ _ _ (.excluded entry) => some (Text.trim entry)
  | tried _ _ _ (.bound _) => none

/-- The order of turns: group by group, and in document order within a group. -/
def Precedes (a b : Turn) : Prop :=
  a.place < b.place ∨ a.place = b.place ∧ ∃ i ∈ a.node?, ∃ j ∈ b.node?, i < j

end Turn

/-- The nodes that have been tried. -/
def triedNodes (turns : List Turn) : List Nat := turns.filterMap Turn.node?

/-- The lines that have been bound. -/
def boundRecords (turns : List Turn) : List Record := turns.filterMap Turn.line?

section Turns

variable (turns more : List Turn) (place index node : Nat) (entry : String) (line : Record)

@[simp] theorem triedNodes_append :
    triedNodes (turns ++ more) = triedNodes turns ++ triedNodes more := List.filterMap_append

@[simp] theorem triedNodes_skipped : triedNodes [.skipped place entry] = [] := rfl

@[simp] theorem triedNodes_tried (result : LineResult) :
    triedNodes [.tried place index node result] = [node] := rfl

@[simp] theorem boundRecords_append :
    boundRecords (turns ++ more) = boundRecords turns ++ boundRecords more := List.filterMap_append

@[simp] theorem boundRecords_skipped : boundRecords [.skipped place entry] = [] := rfl

@[simp] theorem boundRecords_bound :
    boundRecords [.tried place index node (.bound line)] = [line] := rfl

@[simp] theorem boundRecords_excluded :
    boundRecords [.tried place index node (.excluded entry)] = [] := rfl

end Turns

/-- Every node that is tried is bound or fails. -/
theorem length_triedNodes (turns : List Turn) :
    (triedNodes turns).length =
      (boundRecords turns).length + (turns.filterMap Turn.failure?).length := by
  induction turns with
  | nil => rfl
  | cons turn rest ih =>
    match turn with
    | .skipped _ _ => exact ih
    | .tried _ _ _ (.bound _) =>
      show (triedNodes rest).length + 1 =
        (boundRecords rest).length + 1 + (rest.filterMap Turn.failure?).length
      omega
    | .tried _ _ _ (.excluded _) =>
      show (triedNodes rest).length + 1 =
        (boundRecords rest).length + ((rest.filterMap Turn.failure?).length + 1)
      omega

section

variable {s : Scene} {checks : Checks} {fresh : Nat → Nat → Record} {trail : Trail} {id : Nat}

theorem groupEntry_notBlank (group : LineGroup) (refusal : Query.Refusal) :
    Text.isBlankText (groupEntry group refusal) = false :=
  Text.isBlankText_of_mem (c := 'L') (by simp [groupEntry]) (by decide)

theorem lineEntry_notBlank (index : Nat) (rule : Rule) (refusal : Binding.Refusal) :
    Text.isBlankText (lineEntry index rule refusal) = false :=
  Text.isBlankText_of_mem (c := 'L') (by simp [lineEntry]) (by decide)

theorem rejectionEntry_notBlank (index : Nat) (rejection : Rejection) :
    Text.isBlankText (rejectionEntry index rejection) = false :=
  Text.isBlankText_of_mem (c := 'L') (by simp [rejectionEntry]) (by decide)

/-- The entry about a line that is left out is never blank. -/
theorem applyLineRules_notBlank {n : Node} {parent : String} {index : Nat} {line : Record}
    {rules : List Rule} {entry : String}
    (h : (applyLineRules s n parent index line rules).value = .ok (.excluded entry)) :
    Text.isBlankText entry = false := by
  replace h := applyLineRules_course h
  generalize hResult : Except.ok (LineResult.excluded entry) = result at h
  induction h with
  | applied _ _ ih => exact ih hResult
  | @refused line rule rest refusal hRefused =>
    cases hResult
    exact lineEntry_notBlank index rule refusal
  | done | failed => cases hResult

theorem bindLine_notBlank {n : Node} {group : LineGroup} {index : Nat} {line : Record}
    {entry : String}
    (h : (bindLine s checks n group index line).value = .ok (.excluded entry)) :
    Text.isBlankText entry = false := by
  unfold bindLine at h
  rw [Logged.value_bind] at h
  split at h
  · split at h
    · cases h
      exact rejectionEntry_notBlank index _
    · cases h
  · exact applyLineRules_notBlank h

/-- A try is the first one of its node: the group at its place matched the node under that index,
no group before it did, and the result is that of binding the next fresh line. -/
structure FirstTry (s : Scene) (checks : Checks) (fresh : Nat → Nat → Record) (id : Nat)
    (visits : List Visit) (before : List Turn) (place index node : Nat) (result : LineResult)
    (visit : Visit) : Prop where
  visited : visits[place]? = some visit
  matched : 1 ≤ index ∧ visit.nodes[index - 1]? = some node
  first : ∀ earlier ∈ visits.take place, node ∉ earlier.nodes
  result : (bindLine s checks (.row node) visit.group index
    (fresh (id + (triedNodes before).length) (1 + (boundRecords before).length))).value = .ok result

/-- A first try stays one while the nodes of its group are gone through further, and when more
groups follow. -/
theorem FirstTry.mono {visits visits' : List Visit} {before : List Turn} {place index node : Nat}
    {result : LineResult} {visit visit' : Visit}
    (h : FirstTry s checks fresh id visits before place index node result visit)
    (hVisited : visits'[place]? = some visit') (hGroup : visit'.group = visit.group)
    (hNodes : visit.nodes <+: visit'.nodes) (hTake : visits'.take place = visits.take place) :
    FirstTry s checks fresh id visits' before place index node result visit' where
  visited := hVisited
  matched := by
    refine ⟨h.matched.1, ?_⟩
    obtain ⟨more, hMore⟩ := hNodes
    have hLt := (List.getElem?_eq_some_iff.mp h.matched.2).1
    rw [← hMore, List.getElem?_append_left hLt]
    exact h.matched.2
  first := by
    rw [hTake]
    exact h.first
  result := by
    rw [hGroup]
    exact h.result

theorem FirstTry.append {visits : List Visit} {before : List Turn} {place index node : Nat}
    {result : LineResult} {visit : Visit}
    (h : FirstTry s checks fresh id visits before place index node result visit) (next : Visit) :
    FirstTry s checks fresh id (visits ++ [next]) before place index node result visit := by
  have hLt := (List.getElem?_eq_some_iff.mp h.visited).1
  refine h.mono ?_ rfl (List.prefix_refl _) (List.take_append_of_le_length (by omega))
  rw [List.getElem?_append_left hLt, h.visited]

theorem FirstTry.extend {visits : List Visit} {before : List Turn} {place index node : Nat}
    {result : LineResult} {visit : Visit} {group : LineGroup} {nodes more : List Nat}
    (h : FirstTry s checks fresh id (visits ++ [⟨group, .ok nodes⟩]) before place index node result
      visit) :
    ∃ visit', FirstTry s checks fresh id (visits ++ [⟨group, .ok (nodes ++ more)⟩]) before place
      index node result visit' := by
  have hLt := (List.getElem?_eq_some_iff.mp h.visited).1
  have hTake : ∀ last : Visit, (visits ++ [last]).take place = visits.take place := by
    intro last
    rw [List.length_append, List.length_singleton] at hLt
    exact List.take_append_of_le_length (by omega)
  have hVisited := h.visited
  by_cases hPlace : place < visits.length
  · rw [List.getElem?_append_left hPlace] at hVisited
    refine ⟨visit, h.mono ?_ rfl (List.prefix_refl _) ((hTake _).trans (hTake _).symm)⟩
    rw [List.getElem?_append_left hPlace, hVisited]
  · obtain rfl : place = visits.length := by
      rw [List.length_append, List.length_singleton] at hLt
      omega
    obtain rfl : (⟨group, .ok nodes⟩ : Visit) = visit := by simpa using hVisited
    exact ⟨⟨group, .ok (nodes ++ more)⟩, h.mono (by simp) rfl (List.prefix_append _ _)
      ((hTake _).trans (hTake _).symm)⟩

section Keeps

/-- A property of tallies that every step of the two loops keeps. -/
structure KeptByTurns (P : Tally → Prop) : Prop where
  after : ∀ t node result, P t → P (t.after node result)
  skip : ∀ t entry, P t → P { t with trail := t.trail.add entry }
  opened : ∀ t discovery, P t → P { t with discovery }

variable {P : Tally → Prop}

theorem KeptByTurns.bindNodes (hP : KeptByTurns P) {group : LineGroup} {index : Nat} {t : Tally}
    {nodes : List Nat} (h : P t) : P (bindNodes s checks fresh group index t nodes).value.2 := by
  induction nodes generalizing index t with
  | nil => exact h
  | cons node rest ih =>
    unfold Mapping.bindNodes
    split
    · exact ih h
    · rw [Logged.value_bind]
      split
      · exact h
      · next result _ => exact ih (hP.after t node result h)

/-- What every step keeps is kept wherever the lines end. -/
theorem KeptByTurns.bindGroups (hP : KeptByTurns P) {n : Node} {t : Tally}
    {groups : List LineGroup} (h : P t) : P (bindGroups s checks n fresh t groups).value.2 := by
  induction groups generalizing t with
  | nil => exact h
  | cons group rest ih =>
    unfold Mapping.bindGroups
    rw [Logged.value_bind]
    split
    · exact h
    · next refusal _ => exact ih (hP.skip t (groupEntry group refusal) h)
    · next found _ =>
      rw [Logged.value_bind, Logged.value_bind]
      have hNodes : P (Mapping.bindNodes s checks fresh group 1
          { t with discovery := farthest t.discovery found.discovery } found.nodes).value.2 :=
        hP.bindNodes (hP.opened t _ h)
      split
      · next hRun =>
        rw [hRun] at hNodes
        exact hNodes
      · next hRun =>
        rw [hRun] at hNodes
        exact ih hNodes

/-- Identities that lines have got are not given out again. -/
theorem keptByTurns_nextId (id : Nat) : KeptByTurns fun t => id ≤ t.nextId where
  after t node result h := by
    cases result with
    | bound line => exact Nat.le_succ_of_le h
    | excluded entry => exact Nat.le_succ_of_le h
  skip _ _ h := h
  opened _ _ h := h

theorem keptByTurns_limit (limit : Int) : KeptByTurns fun t => t.trail.limit = limit where
  after t node result h := by
    cases result with
    | bound line => exact h
    | excluded entry => exact (Trail.limit_add t.trail entry).trans h
  skip t entry h := (Trail.limit_add t.trail entry).trans h
  opened _ _ h := h

end Keeps

end

end Intake.Mapping
