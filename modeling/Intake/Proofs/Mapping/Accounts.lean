import Intake.Proofs.Mapping.Turns
import Intake.Proofs.Query.Order

/-! The accounts of the lines of a document. The two loops over groups and nodes share what they have
seen, what they have bound and what has failed; the accounts say which turns there have been and that
the tally is theirs. -/

namespace Intake.Mapping

open Xml XPath

theorem eq_concat_split {α : Type} {l before after : List α} {x y : α}
    (h : l ++ [y] = before ++ x :: after) :
    (after = [] ∧ l = before ∧ y = x) ∨
      ∃ rest, after = rest ++ [y] ∧ l = before ++ x :: rest := by
  rcases List.eq_nil_or_concat after with rfl | ⟨rest, last, rfl⟩
  · exact .inl ⟨rfl, by simpa using List.append_inj' h rfl⟩
  · rw [List.concat_eq_append, ← List.cons_append, ← List.append_assoc] at h
    obtain ⟨hList, hLast⟩ := List.append_inj' h rfl
    cases hLast
    exact .inr ⟨rest, List.concat_eq_append, hList⟩

section

variable {s : Scene} {checks : Checks} {fresh : Nat → Nat → Record} {trail : Trail} {id : Nat}

/-- The accounts of the groups that have been gone through, from an empty tally with the trail
`trail` and the identity `id`. -/
structure Accounts (s : Scene) (checks : Checks) (fresh : Nat → Nat → Record) (trail : Trail)
    (id : Nat) (visits : List Visit) (turns : List Turn) (t : Tally) : Prop where
  once : (triedNodes turns).Nodup
  covered : ∀ visit ∈ visits, ∀ node ∈ visit.nodes, node ∈ triedNodes turns
  tried : ∀ before place index node result after,
    turns = before ++ .tried place index node result :: after →
    ∃ visit, FirstTry s checks fresh id visits before place index node result visit
  skipped : turns.filterMap Turn.skip? =
    visits.zipIdx.filterMap fun (visit, place) => visit.skip?.map fun entry => (place, entry)
  inOrder : turns.Pairwise Turn.Precedes
  seen : t.seen = triedNodes turns
  lines : t.lines = boundRecords turns
  failed : t.failed = (turns.filterMap Turn.failure?).length
  nextId : t.nextId = id + (triedNodes turns).length
  nextNumber : t.nextNumber = 1 + (boundRecords turns).length
  trail : t.trail = { trail with entries := trail.entries ++ turns.filterMap Turn.entry? }

theorem Accounts.start : Accounts s checks fresh trail id [] [] { trail, nextId := id } where
  once := .nil
  covered := by simp
  tried := by simp
  skipped := rfl
  inOrder := .nil
  seen := rfl
  lines := rfl
  failed := rfl
  nextId := rfl
  nextNumber := rfl
  trail := by simp

variable {visits : List Visit} {turns : List Turn} {t : Tally}

/-- Every turn is one of a group that has been gone through: the group is skipped, or the turn is a
try of one of its nodes. -/
theorem Accounts.visited (h : Accounts s checks fresh trail id visits turns t) {turn : Turn}
    (hTurn : turn ∈ turns) :
    ∃ visit, visits[turn.place]? = some visit ∧
      ((∃ entry, visit.skip? = some entry) ∨ ∃ node ∈ turn.node?, node ∈ visit.nodes) := by
  cases turn with
  | skipped place entry =>
    have hMem : (place, entry) ∈ turns.filterMap Turn.skip? :=
      List.mem_filterMap.mpr ⟨_, hTurn, rfl⟩
    rw [h.skipped] at hMem
    obtain ⟨⟨visit, place'⟩, hVisit, hSkip⟩ := List.mem_filterMap.mp hMem
    obtain ⟨entry', hEntry, hSame⟩ := Option.map_eq_some_iff.mp hSkip
    cases hSame
    exact ⟨visit, List.mem_zipIdx_iff_getElem?.mp hVisit, .inl ⟨entry, hEntry⟩⟩
  | tried place index node result =>
    obtain ⟨before, after, hSplit⟩ := List.append_of_mem hTurn
    obtain ⟨visit, hFirst⟩ := h.tried before place index node result after hSplit
    exact ⟨visit, hFirst.visited, .inr ⟨node, rfl, List.mem_of_getElem? hFirst.matched.2⟩⟩

theorem Accounts.place_lt (h : Accounts s checks fresh trail id visits turns t) :
    ∀ turn ∈ turns, turn.place < visits.length := by
  intro turn hTurn
  obtain ⟨visit, hVisit, -⟩ := h.visited hTurn
  exact (List.getElem?_eq_some_iff.mp hVisit).1

/-- The turns of the group whose nodes are being gone through are tries of those nodes. -/
theorem Accounts.current {group : LineGroup} {nodes : List Nat}
    (h : Accounts s checks fresh trail id (visits ++ [⟨group, .ok nodes⟩]) turns t) {turn : Turn}
    (hTurn : turn ∈ turns) (hPlace : turn.place = visits.length) :
    ∃ node ∈ turn.node?, node ∈ nodes := by
  obtain ⟨visit, hVisit, hKind⟩ := h.visited hTurn
  obtain rfl : (⟨group, .ok nodes⟩ : Visit) = visit := by simpa [hPlace] using hVisit
  rcases hKind with ⟨entry, hEntry⟩ | hNode
  · cases hEntry
  · exact hNode

/-- A group is opened whose nodes have yet to be gone through. -/
theorem Accounts.opened (h : Accounts s checks fresh trail id visits turns t) (group : LineGroup)
    (discovery : Option Discovery) :
    Accounts s checks fresh trail id (visits ++ [⟨group, .ok []⟩]) turns { t with discovery } where
  once := h.once
  covered := by
    intro visit hVisit node hNode
    rcases List.mem_append.mp hVisit with hVisit | hVisit
    · exact h.covered visit hVisit node hNode
    · obtain rfl := List.mem_singleton.mp hVisit
      cases hNode
  tried := by
    intro before place index node result after hSplit
    obtain ⟨visit, hFirst⟩ := h.tried before place index node result after hSplit
    exact ⟨visit, hFirst.append _⟩
  skipped := by
    rw [h.skipped, List.zipIdx_append, List.filterMap_append]
    simp [Visit.skip?]
  inOrder := h.inOrder
  seen := h.seen
  lines := h.lines
  failed := h.failed
  nextId := h.nextId
  nextNumber := h.nextNumber
  trail := h.trail

/-- A group is skipped. -/
theorem Accounts.skip (h : Accounts s checks fresh trail id visits turns t) (group : LineGroup)
    (refusal : Query.Refusal) :
    Accounts s checks fresh trail id (visits ++ [⟨group, .error (.refused refusal)⟩])
      (turns ++ [.skipped visits.length (groupEntry group refusal)])
      { t with trail := t.trail.add (groupEntry group refusal) } where
  once := by simpa using h.once
  covered := by
    intro visit hVisit node hNode
    rcases List.mem_append.mp hVisit with hVisit | hVisit
    · simpa using h.covered visit hVisit node hNode
    · obtain rfl := List.mem_singleton.mp hVisit
      cases hNode
  tried := by
    intro before place index node result after hSplit
    rcases eq_concat_split hSplit with ⟨-, -, hLast⟩ | ⟨rest, -, hSplit⟩
    · cases hLast
    · obtain ⟨visit, hFirst⟩ := h.tried before place index node result rest hSplit
      exact ⟨visit, hFirst.append _⟩
  skipped := by
    rw [List.filterMap_append, h.skipped, List.zipIdx_append, List.filterMap_append]
    simp [Turn.skip?, Visit.skip?]
  inOrder := by
    refine List.pairwise_append.mpr ⟨h.inOrder, List.pairwise_singleton _ _, ?_⟩
    intro a ha b hb
    obtain rfl := List.mem_singleton.mp hb
    exact .inl (h.place_lt a ha)
  seen := by simp [h.seen]
  lines := by simp [h.lines]
  failed := by simp [h.failed, Turn.failure?]
  nextId := by simp [h.nextId]
  nextNumber := by simp [h.nextNumber]
  trail := by
    rw [Trail.add_of_notBlank (groupEntry_notBlank group refusal), h.trail]
    simp [Turn.entry?]

/-- A node that has been tried before is passed over. -/
theorem Accounts.pass {group : LineGroup} {nodes : List Nat} {node : Nat}
    (h : Accounts s checks fresh trail id (visits ++ [⟨group, .ok nodes⟩]) turns t)
    (hSeen : node ∈ t.seen) :
    Accounts s checks fresh trail id (visits ++ [⟨group, .ok (nodes ++ [node])⟩]) turns t where
  once := h.once
  covered := by
    intro visit hVisit other hOther
    rcases List.mem_append.mp hVisit with hVisit | hVisit
    · exact h.covered visit (List.mem_append_left _ hVisit) other hOther
    · obtain rfl := List.mem_singleton.mp hVisit
      rcases List.mem_append.mp hOther with hOther | hOther
      · exact h.covered ⟨group, .ok nodes⟩ (by simp) other hOther
      · obtain rfl := List.mem_singleton.mp hOther
        rw [← h.seen]
        exact hSeen
  tried := by
    intro before place index other result after hSplit
    obtain ⟨visit, hFirst⟩ := h.tried before place index other result after hSplit
    exact hFirst.extend
  skipped := by
    rw [h.skipped, List.zipIdx_append, List.zipIdx_append, List.filterMap_append,
      List.filterMap_append]
    simp [Visit.skip?]
  inOrder := h.inOrder
  seen := h.seen
  lines := h.lines
  failed := h.failed
  nextId := h.nextId
  nextNumber := h.nextNumber
  trail := h.trail

/-- A node that has not been tried before is tried. -/
theorem Accounts.try {group : LineGroup} {nodes : List Nat} {node : Nat} {result : LineResult}
    (h : Accounts s checks fresh trail id (visits ++ [⟨group, .ok nodes⟩]) turns t)
    (hOrder : (nodes ++ [node]).Pairwise (· < ·)) (hNew : node ∉ t.seen)
    (hResult : (bindLine s checks (.row node) group (nodes.length + 1)
      (fresh t.nextId t.nextNumber)).value = .ok result) :
    Accounts s checks fresh trail id (visits ++ [⟨group, .ok (nodes ++ [node])⟩])
      (turns ++ [.tried visits.length (nodes.length + 1) node result]) (t.after node result) where
  once := by
    rw [triedNodes_append, triedNodes_tried, List.nodup_append]
    refine ⟨h.once, by simp, ?_⟩
    intro other hOther last hLast
    obtain rfl := List.mem_singleton.mp hLast
    rintro rfl
    exact hNew (h.seen ▸ hOther)
  covered := by
    intro visit hVisit other hOther
    rw [triedNodes_append, triedNodes_tried]
    rcases List.mem_append.mp hVisit with hVisit | hVisit
    · exact List.mem_append_left _ (h.covered visit (List.mem_append_left _ hVisit) other hOther)
    · obtain rfl := List.mem_singleton.mp hVisit
      rcases List.mem_append.mp hOther with hOther | hOther
      · exact List.mem_append_left _ (h.covered ⟨group, .ok nodes⟩ (by simp) other hOther)
      · exact List.mem_append_right _ hOther
  tried := by
    intro before place index other result' after hSplit
    rcases eq_concat_split hSplit with ⟨-, rfl, hLast⟩ | ⟨rest, -, hSplit⟩
    · cases hLast
      refine ⟨⟨group, .ok (nodes ++ [node])⟩, ?_, ?_, ?_, ?_⟩
      · simp
      · exact ⟨by omega, by simp [Visit.nodes, Except.toOption]⟩
      · intro earlier hEarlier hNode
        rw [List.take_left] at hEarlier
        exact hNew (h.seen ▸ h.covered earlier (List.mem_append_left _ hEarlier) node hNode)
      · rw [← h.nextId, ← h.nextNumber]
        exact hResult
    · obtain ⟨visit, hFirst⟩ := h.tried before place index other result' rest hSplit
      exact hFirst.extend
  skipped := by
    rw [List.filterMap_append, h.skipped, List.zipIdx_append, List.zipIdx_append,
      List.filterMap_append, List.filterMap_append]
    simp [Turn.skip?, Visit.skip?]
  inOrder := by
    refine List.pairwise_append.mpr ⟨h.inOrder, List.pairwise_singleton _ _, ?_⟩
    intro a ha b hb
    obtain rfl := List.mem_singleton.mp hb
    have hLt := h.place_lt a ha
    rw [List.length_append, List.length_singleton] at hLt
    by_cases hPlace : a.place < visits.length
    · exact .inl hPlace
    · have hSame : a.place = visits.length := by omega
      obtain ⟨other, hOther, hNode⟩ := h.current ha hSame
      have hBefore : other < node := (List.pairwise_append.mp hOrder).2.2 other hNode node (by simp)
      exact .inr ⟨hSame, other, hOther, node, rfl, hBefore⟩
  seen := by cases result <;> simp [Tally.after, h.seen]
  lines := by cases result <;> simp [Tally.after, h.lines]
  failed := by cases result <;> simp [Tally.after, h.failed, Turn.failure?]
  nextId := by cases result <;> simp [Tally.after, h.nextId, Nat.add_assoc]
  nextNumber := by cases result <;> simp [Tally.after, h.nextNumber, Nat.add_assoc]
  trail := by
    cases result with
    | bound line => simp [Tally.after, h.trail, Turn.entry?]
    | excluded entry =>
      simp only [Tally.after, Trail.add_of_notBlank (bindLine_notBlank hResult), h.trail]
      simp [Turn.entry?]

/-- Going through the nodes that are left of a group adds turns of the group to the accounts. -/
theorem bindNodes_accounts {group : LineGroup} {nodes rest : List Nat} {t' : Tally}
    (h : Accounts s checks fresh trail id (visits ++ [⟨group, .ok nodes⟩]) turns t)
    (hOrder : (nodes ++ rest).Pairwise (· < ·))
    (hRun : (bindNodes s checks fresh group (nodes.length + 1) t rest).value = (.ok (), t')) :
    ∃ more, (∀ turn ∈ more, turn.place = visits.length) ∧
      Accounts s checks fresh trail id (visits ++ [⟨group, .ok (nodes ++ rest)⟩]) (turns ++ more)
        t' := by
  induction rest generalizing nodes turns t with
  | nil =>
    cases hRun
    refine ⟨[], nofun, ?_⟩
    rw [List.append_nil, List.append_nil]
    exact h
  | cons node rest ih =>
    have hSplit : nodes ++ node :: rest = (nodes ++ [node]) ++ rest := by simp
    have hNext : (nodes ++ [node]).length = nodes.length + 1 := by simp
    rw [hSplit] at hOrder ⊢
    unfold bindNodes at hRun
    split at hRun
    · rename_i hSeen
      rw [Logged.value_bind, ← hNext] at hRun
      exact ih (h.pass (by simpa using hSeen)) hOrder hRun
    · rename_i hNew
      rw [Logged.value_bind] at hRun
      split at hRun
      · cases hRun
      · rename_i result hResult
        rw [← hNext] at hRun
        have hPrefix := (List.pairwise_append.mp hOrder).1
        obtain ⟨more, hPlace, hMore⟩ := ih (h.try hPrefix (by simpa using hNew) hResult) hOrder hRun
        rw [List.append_assoc turns] at hMore
        exact ⟨_, List.forall_mem_cons.mpr ⟨rfl, hPlace⟩, hMore⟩

/-- The visit of a group, all its nodes gone through. -/
def visitOf (s : Scene) (n : Node) (group : LineGroup) : Visit :=
  ⟨group, (Query.findLines s.chains.settings s.document s.spaces n group.parent).value.map
    Query.LineMatch.nodes⟩

/-- Going through one group: its turns are added to the accounts, and the groups behind it are gone
through with the tally after them. -/
theorem bindGroups_group {n : Node} {group : LineGroup} {rest : List LineGroup} {t' : Tally}
    (h : Accounts s checks fresh trail id visits turns t)
    (hRun : (bindGroups s checks n fresh t (group :: rest)).value = (.ok (), t')) :
    ∃ more t'', (∀ turn ∈ more, turn.place = visits.length) ∧
      Accounts s checks fresh trail id (visits ++ [visitOf s n group]) (turns ++ more) t'' ∧
      (bindGroups s checks n fresh t'' rest).value = (.ok (), t') := by
  unfold bindGroups at hRun
  rw [Logged.value_bind] at hRun
  split at hRun
  · cases hRun
  · rename_i refusal hFound
    have hVisit : visitOf s n group = ⟨group, .error (.refused refusal)⟩ := by
      rw [visitOf, hFound]
      rfl
    rw [hVisit]
    exact ⟨_, _, List.forall_mem_singleton.mpr rfl, h.skip group refusal, hRun⟩
  · rename_i found hFound
    have hVisit : visitOf s n group = ⟨group, .ok ([] ++ found.nodes)⟩ := by
      rw [visitOf, hFound]
      rfl
    rw [hVisit]
    rw [Logged.value_bind, Logged.value_bind] at hRun
    split at hRun
    · cases hRun
    · rename_i t'' hNodes
      have hOpened := h.opened group (farthest t.discovery found.discovery)
      obtain ⟨tries, hHere, hTries⟩ := bindNodes_accounts hOpened
        (Query.findLines_pairwise hFound) hNodes
      exact ⟨tries, t'', hHere, hTries, hRun⟩

/-- Going through the groups that are left adds turns of those groups to the accounts. -/
theorem bindGroups_continues {n : Node} {groups : List LineGroup} {t' : Tally}
    (h : Accounts s checks fresh trail id visits turns t)
    (hRun : (bindGroups s checks n fresh t groups).value = (.ok (), t')) :
    ∃ more, (∀ turn ∈ more, visits.length ≤ turn.place) ∧
      Accounts s checks fresh trail id (visits ++ groups.map (visitOf s n)) (turns ++ more) t' := by
  induction groups generalizing visits turns t with
  | nil =>
    cases hRun
    refine ⟨[], nofun, ?_⟩
    rw [List.map_nil, List.append_nil, List.append_nil]
    exact h
  | cons group rest ih =>
    obtain ⟨tries, t'', hHere, hTries, hRest⟩ := bindGroups_group h hRun
    obtain ⟨more, hLater, hMore⟩ := ih hTries hRest
    refine ⟨tries ++ more, List.forall_mem_append.mpr ⟨fun turn hTurn => ?_, fun turn hTurn => ?_⟩,
      ?_⟩
    · exact Nat.le_of_eq (hHere turn hTurn).symm
    · have hLe := hLater turn hTurn
      rw [List.length_append, List.length_singleton] at hLe
      omega
    · rwa [List.append_assoc, List.append_assoc, List.singleton_append, ← List.map_cons] at hMore

/-- Going through the groups that are left keeps the accounts. -/
theorem bindGroups_accounts {n : Node} {groups : List LineGroup} {t' : Tally}
    (h : Accounts s checks fresh trail id visits turns t)
    (hRun : (bindGroups s checks n fresh t groups).value = (.ok (), t')) :
    ∃ turns', Accounts s checks fresh trail id (visits ++ groups.map (visitOf s n)) turns' t' := by
  obtain ⟨more, -, hMore⟩ := bindGroups_continues h hRun
  exact ⟨_, hMore⟩

/-- Groups are gone through one after the other. -/
theorem bindGroups_append {n : Node} {before after : List LineGroup} {t' : Tally}
    (hRun : (bindGroups s checks n fresh t (before ++ after)).value = (.ok (), t')) :
    ∃ between, (bindGroups s checks n fresh t before).value = (.ok (), between) ∧
      (bindGroups s checks n fresh between after).value = (.ok (), t') := by
  induction before generalizing t with
  | nil => exact ⟨t, rfl, hRun⟩
  | cons group rest ih =>
    rw [List.cons_append] at hRun
    unfold bindGroups at hRun
    rw [Logged.value_bind] at hRun
    split at hRun
    · cases hRun
    · next hFound =>
      obtain ⟨between, hBefore, hAfter⟩ := ih hRun
      refine ⟨between, ?_, hAfter⟩
      rw [bindGroups, Logged.value_bind, hFound]
      exact hBefore
    · next hFound =>
      rw [Logged.value_bind, Logged.value_bind] at hRun
      split at hRun
      · cases hRun
      · next hNodes =>
        obtain ⟨between, hBefore, hAfter⟩ := ih hRun
        refine ⟨between, ?_, hAfter⟩
        rw [bindGroups, Logged.value_bind, hFound]
        simp only [Logged.value_bind, hNodes]
        exact hBefore

/-- The nodes that are tried are those that some group matches. -/
theorem Accounts.mem_triedNodes (h : Accounts s checks fresh trail id visits turns t) {node : Nat} :
    node ∈ triedNodes turns ↔ ∃ visit ∈ visits, node ∈ visit.nodes := by
  constructor
  · intro hNode
    obtain ⟨turn, hTurn, hTried⟩ := List.mem_filterMap.mp hNode
    cases turn with
    | skipped place entry => cases hTried
    | tried place index other result =>
      cases hTried
      obtain ⟨before, after, hSplit⟩ := List.append_of_mem hTurn
      obtain ⟨visit, hFirst⟩ := h.tried before place index node result after hSplit
      exact ⟨visit, List.mem_of_getElem? hFirst.visited,
        List.mem_of_getElem? hFirst.matched.2⟩
  · rintro ⟨visit, hVisit, hNode⟩
    exact h.covered visit hVisit node hNode

end

end Intake.Mapping
