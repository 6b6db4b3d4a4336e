import Intake.Proofs.Attempt.Lines
import Intake.Proofs.Mapping.FirstGroup

/-! What becomes of lines that are found away from the path of their group. An element that stands at
the path of a group is tried by the first such group, unless a group before that one has nothing at its
own path and finds the element instead; no group behind it gets the element. And a group more takes the
elements that it finds from the groups behind it, but changes nothing else that lines hold, except how
those behind it are counted. -/

namespace Intake.Attempt

open Mapping

variable {t : Task} {trail : Trail} {id : Nat} {header : Record}

/-- A node is tried by the group at `first`, where the group at `place` is the first one that has it at
its path. -/
structure TriedFor (t : Task) (header : Record) (id : Nat) (groups : List LineGroup)
    (turns : List Turn) (place first node : Nat) (group : LineGroup) : Prop where
  atPlace : groups[first]? = some group
  tried : ∃ before index result after, turns = before ++ .tried first index node result :: after ∧
    FirstTry t.scene t.checks
      (fun id number => Record.freshLine t.settings t.now t.kind id header number t.clientId) id
      (groups.map (visitOf t.scene t.start)) before first index node result
      (visitOf t.scene t.start group)
  order : first = place ∨ first < place ∧ configuredNodes t.scene t.start group = []

/-- A node at the path of a group is tried by that group or by one before it, in which case that one
has nothing at its own path. -/
theorem LinesAccounted.triedFor {groups : List LineGroup} {turns : List Turn} {tally : Tally}
    (h : LinesAccounted t trail id header groups turns tally) {place node : Nat} {group : LineGroup}
    (hGroup : groups[place]? = some group) (hNode : node ∈ configuredNodes t.scene t.start group)
    (hEarlier : ∀ earlier ∈ groups.take place,
      node ∉ configuredNodes t.scene t.start earlier) :
    ∃ first chosen, TriedFor t header id groups turns place first node chosen := by
  have hMatched : node ∈ (visitOf t.scene t.start group).nodes := by
    rw [nodes_visitOf (List.ne_nil_of_mem hNode)]
    exact hNode
  obtain ⟨turn, hTurn, hTried⟩ := List.mem_filterMap.mp
    ((h.matched node).mpr ⟨group, List.mem_of_getElem? hGroup, hMatched⟩)
  match turn, hTurn, hTried with
  | .tried first index _ result, hTurn, rfl =>
    obtain ⟨before, after, hSplit⟩ := List.append_of_mem hTurn
    obtain ⟨visit, hTry⟩ := h.accounts.tried before first index node result after hSplit
    obtain ⟨chosen, hChosen, rfl⟩ : ∃ chosen, groups[first]? = some chosen ∧
        visitOf t.scene t.start chosen = visit := by simpa using hTry.visited
    refine ⟨first, chosen, hChosen, ⟨before, index, result, after, hSplit, hTry⟩, ?_⟩
    rcases Nat.lt_trichotomy first place with hLt | hSame | hLt
    · -- A group with nodes at its path matches no others, so this one would be the first itself.
      refine .inr ⟨hLt, Decidable.byContradiction fun hConfigured => ?_⟩
      apply hEarlier chosen (mem_take_of_getElem? hChosen hLt)
      rw [← nodes_visitOf hConfigured]
      exact List.mem_of_getElem? hTry.matched.2
    · exact .inl hSame
    · have hVisit : (groups.map (visitOf t.scene t.start))[place]? =
          some (visitOf t.scene t.start group) := by simp [hGroup]
      exact absurd hMatched (hTry.first _ (mem_take_of_getElem? hVisit hLt))

/-- Two runs of which the second has one group more. They share the turns of the groups in front of
that one. Behind it, what the second run does is what the first one does to the nodes that the added
group does not match. -/
structure OneGroupMore (t : Task) (trail : Trail) (id : Nat) (header : Record)
    (before : List LineGroup) (extra : LineGroup) (after : List LineGroup)
    (shared more more' : List Turn) : Prop where
  front : LinesAccounted t trail id header before shared (boundLines t trail id header before).2
  without : LinesAccounted t trail id header (before ++ after) (shared ++ more)
    (boundLines t trail id header (before ++ after)).2
  added : LinesAccounted t trail id header (before ++ extra :: after) (shared ++ more')
    (boundLines t trail id header (before ++ extra :: after)).2
  behind : ∀ turn ∈ more ++ more', before.length ≤ turn.place
  kept : ∀ place index node result, node ∉ (visitOf t.scene t.start extra).nodes →
    .tried place index node result ∈ more →
      ∃ result', .tried (place + 1) index node result' ∈ more' ∧ result.Alike result'
  nothingElse : ∀ place index node result, before.length ≤ place →
    .tried (place + 1) index node result ∈ more' →
      ∃ result', .tried place index node result' ∈ more ∧ result.Alike result'

/-- Groups that are gone through behind others leave the turns of those as they are. -/
theorem boundLines_continues {before after : List LineGroup} {shared : List Turn} {between : Tally}
    (hShared : Accounts t.scene t.checks
      (fun id number => Record.freshLine t.settings t.now t.kind id header number t.clientId)
      trail id (before.map (visitOf t.scene t.start)) shared between)
    (hBefore : boundLines t trail id header before = (.ok (), between))
    (hOk : (boundLines t trail id header (before ++ after)).1 = .ok ()) :
    ∃ more, (∀ turn ∈ more, before.length ≤ turn.place) ∧
      LinesAccounted t trail id header (before ++ after) (shared ++ more)
        (boundLines t trail id header (before ++ after)).2 := by
  rcases hBound : boundLines t trail id header (before ++ after) with ⟨result, tally⟩
  obtain rfl : result = .ok () := by rw [hBound] at hOk; exact hOk
  obtain ⟨between', hBefore', hAfter⟩ := bindGroups_append hBound
  obtain rfl : between' = between := by
    have hSame := hBefore'.symm.trans hBefore
    cases hSame
    rfl
  obtain ⟨more, hPlace, hAccounts⟩ := bindGroups_continues hShared hAfter
  rw [← List.map_append] at hAccounts
  rw [List.length_map] at hPlace
  exact ⟨more, hPlace, .of_accounts hAccounts⟩

theorem exists_oneGroupMore
    (hChecks : ∀ a b : Record, a.Alike b → t.checks.line a = t.checks.line b)
    {before after : List LineGroup} {extra : LineGroup}
    (hOk : (boundLines t trail id header (before ++ after)).1 = .ok ())
    (hOk' : (boundLines t trail id header (before ++ extra :: after)).1 = .ok ()) :
    ∃ shared more more', OneGroupMore t trail id header before extra after shared more more' := by
  rcases hBound : boundLines t trail id header (before ++ after) with ⟨result, tally⟩
  obtain rfl : result = .ok () := by rw [hBound] at hOk; exact hOk
  obtain ⟨between, hBefore, -⟩ := bindGroups_append hBound
  obtain ⟨shared, hShared⟩ := bindGroups_accounts Accounts.start hBefore
  rw [List.nil_append] at hShared
  obtain ⟨more, hPlace, hWithout⟩ := boundLines_continues hShared hBefore hOk
  obtain ⟨more', hPlace', hAdded⟩ := boundLines_continues hShared hBefore hOk'
  have hFresh : ∀ id number id' number',
      (Record.freshLine t.settings t.now t.kind id header (number : Nat) t.clientId).Alike
        (Record.freshLine t.settings t.now t.kind id' header (number' : Nat) t.clientId) :=
    fun id number id' number' =>
      Record.freshLine_alike t.settings t.now t.kind header t.clientId id id' number number'
  have hFront : ∀ turn ∈ shared, turn.place < before.length := by
    have hLt := hShared.place_lt
    rwa [List.length_map] at hLt
  refine ⟨shared, more, more', ?_, hWithout, hAdded, List.forall_mem_append.mpr ⟨hPlace, hPlace'⟩,
    ?_, ?_⟩
  · rw [show (boundLines t trail id header before).2 = between from congrArg Prod.snd hBefore]
    exact .of_accounts hShared
  · intro place index node result hFree hTurn
    have hLe : before.length ≤ place := hPlace _ hTurn
    obtain ⟨result', hTurn', hAlike⟩ := (Accounts.tried_insert hFresh hChecks hWithout.accounts
      hAdded.accounts hLe).1 hFree (List.mem_append_right shared hTurn)
    refine ⟨result', (List.mem_append.mp hTurn').resolve_left fun hMem => ?_, hAlike⟩
    have hLt : place + 1 < before.length := hFront _ hMem
    omega
  · intro place index node result hLe hTurn
    obtain ⟨result', hTurn', hAlike⟩ := (Accounts.tried_insert hFresh hChecks hWithout.accounts
      hAdded.accounts hLe).2 (List.mem_append_right shared hTurn)
    refine ⟨result', (List.mem_append.mp hTurn').resolve_left fun hMem => ?_, hAlike⟩
    have hLt : place < before.length := hFront _ hMem
    omega

/-- A node at the path of a group is tried by the first such group or, if a group before it has nothing
at its path and finds the node elsewhere, by that one. One group more changes nothing of the lines of
groups before it, and of those behind it only their identities and numbers, save for the nodes that it
matches itself. -/
theorem boundLines_firstGroup (t : Task) (trail : Trail) (id : Nat) (header : Record) :
    (∀ groups, (boundLines t trail id header groups).1 = .ok () →
      ∃ turns, LinesAccounted t trail id header groups turns
          (boundLines t trail id header groups).2 ∧
        ∀ place group node, groups[place]? = some group →
          node ∈ configuredNodes t.scene t.start group →
          (∀ earlier ∈ groups.take place, node ∉ configuredNodes t.scene t.start earlier) →
            ∃ first chosen, TriedFor t header id groups turns place first node chosen) ∧
    ((∀ a b : Record, a.Alike b → t.checks.line a = t.checks.line b) →
      ∀ before extra after, (boundLines t trail id header (before ++ after)).1 = .ok () →
        (boundLines t trail id header (before ++ extra :: after)).1 = .ok () →
          ∃ shared more more',
            OneGroupMore t trail id header before extra after shared more more') := by
  constructor
  · intro groups hOk
    have hStart : boundLines t trail id header [] = (.ok (), { trail, nextId := id }) := rfl
    obtain ⟨turns, -, hTurns⟩ := boundLines_continues Accounts.start hStart hOk
    exact ⟨turns, hTurns, fun place group node => LinesAccounted.triedFor hTurns⟩
  · intro hChecks before extra after hOk hOk'
    exact exists_oneGroupMore hChecks hOk hOk'

/-- An order with one item, of which two are wanted. Items are looked for where there are no lines. -/
def twoOfItem : Task where
  kind := .order
  settings := { linePaths := ["Item"] }
  now := default
  document := .ofParts ⟨[], ⟨⟨none, none, "Order"⟩, [], []⟩,
    [.element ⟨⟨none, none, "Item"⟩, [], []⟩
      [.element ⟨⟨none, none, "Qty"⟩, [], []⟩ [.text "2"]]], []⟩

/-- Lines at the notes of an order, which may have none. -/
def notesGroup : LineGroup where
  parent := "Note"
  rules := [{ name := "", targetField := "notes", tableName := DocumentKind.order.lineType.table
              sourcePath := some "Note/Text" }]

/-- Lines at the items of an order. -/
def itemsGroup : LineGroup where
  parent := "Item"
  rules := [{ name := "", targetField := "quantity", tableName := DocumentKind.order.lineType.table
              sourcePath := some "Item/Qty" }]

theorem boundLines_firstGroup_itemsFirst :
    let header := Record.freshHeader {} default .order 2 none
    let groups := [itemsGroup, notesGroup]
    (∃ turns, LinesAccounted twoOfItem ⟨1000, []⟩ 3 header groups turns
        (boundLines twoOfItem ⟨1000, []⟩ 3 header groups).2 ∧
      ∃ first chosen, TriedFor twoOfItem header 3 groups turns 0 first 2 chosen) ∧
    ∃ shared more more',
      OneGroupMore twoOfItem ⟨1000, []⟩ 3 header [itemsGroup] notesGroup [] shared more more' := by
  intro header groups
  have hAlone : (boundLines twoOfItem ⟨1000, []⟩ 3 header [itemsGroup]).1 = .ok () :=
    eq_ok_of_isOk (by decide +kernel)
  have hOk : (boundLines twoOfItem ⟨1000, []⟩ 3 header groups).1 = .ok () :=
    eq_ok_of_isOk (by decide +kernel)
  have hNode : 2 ∈ configuredNodes twoOfItem.scene twoOfItem.start itemsGroup := by decide +kernel
  obtain ⟨hTried, hMore⟩ := boundLines_firstGroup twoOfItem ⟨1000, []⟩ 3 header
  constructor
  · obtain ⟨turns, hTurns, hFirst⟩ := hTried groups hOk
    exact ⟨turns, hTurns, hFirst 0 itemsGroup 2 rfl hNode nofun⟩
  · exact hMore (fun _ _ _ => rfl) [itemsGroup] notesGroup [] hAlone hOk

/-- A group in front that has nothing at its path takes the item from the group whose path it is at,
and the line is left with the quantity of a fresh one. -/
theorem boundLines_notesFirst :
    let header := Record.freshHeader {} default .order 2 none
    let bound groups := boundLines twoOfItem ⟨1000, []⟩ 3 header groups
    configuredNodes twoOfItem.scene twoOfItem.start notesGroup = [] ∧
      configuredNodes twoOfItem.scene twoOfItem.start itemsGroup = [2] ∧
      (bound [itemsGroup]).1.isOk ∧
      (bound [itemsGroup]).2.lines.map (·.get? "quantity") = [some (.whole 2)] ∧
      (bound [notesGroup, itemsGroup]).1.isOk ∧
      (bound [notesGroup, itemsGroup]).2.lines.map (·.get? "quantity") = [some (.whole 0)] := by
  decide +kernel

end Intake.Attempt
