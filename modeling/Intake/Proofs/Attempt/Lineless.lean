import Intake.Proofs.Attempt.Verdict

/-! Attempts that end without lines. If calls all succeed, such an attempt counts as a success as long as
no line has failed. That is so where no group of line rules finds a node, be it that none is there or
that the path of the group cannot be evaluated; a group that is skipped only leaves its entry. -/

namespace Intake

/-- Lines that are gone through to the end meet no fault on the way to their nodes. -/
theorem Mapping.bindGroups_found {s : Scene} {checks : Checks} {fresh : Nat → Nat → Record}
    {n : XPath.Node} {t t' : Tally} {groups : List LineGroup}
    (h : (bindGroups s checks n fresh t groups).value = (.ok (), t')) :
    ∀ group ∈ groups, ∀ fault, (visitOf s n group).found ≠ .error (.fault fault) := by
  -- A path that is refused lets the other groups go on; a fault ends them all.
  induction groups generalizing t with
  | nil => nofun
  | cons group rest ih =>
    unfold bindGroups at h
    rw [Logged.value_bind] at h
    split at h
    · cases h
    · next refusal hFound =>
      refine List.forall_mem_cons.mpr ⟨fun fault hFault => ?_, ih h⟩
      rw [visitOf, hFound] at hFault
      cases hFault
    · next found hFound =>
      rw [Logged.value_bind, Logged.value_bind] at h
      split at h
      · cases h
      · refine List.forall_mem_cons.mpr ⟨fun fault hFault => ?_, ih h⟩
        rw [visitOf, hFound] at hFault
        cases hFault

namespace Attempt

open Mapping

variable {σ : Type} {t : Task} {id : Nat} {es : List Exchange} {plan : Plan} {header saved : Record}
  {entries : List String} {tally : Tally}

/-- No line is bound and none fails exactly if every group is skipped or matches no node. -/
theorem Carried.lineless_iff (h : Carried t id es plan header saved entries tally) :
    tally.lines = [] ∧ tally.failed = 0 ↔
      ∀ group ∈ plan.groups, (∃ entry, (visitOf t.scene t.start group).skip? = some entry) ∨
        (visitOf t.scene t.start group).found = .ok [] := by
  obtain ⟨turns, hAccounted⟩ := h.accounted
  -- Each node that is tried makes a line or a failure, and each that is matched is tried.
  have hTotal := hAccounted.total
  constructor
  · rintro ⟨hLines, hFailed⟩ group hGroup
    have hTried : triedNodes turns = [] := by
      rw [hLines, hFailed] at hTotal
      exact List.length_eq_zero_iff.mp hTotal.symm
    cases hFound : (visitOf t.scene t.start group).found with
    | error failure =>
      cases failure with
      | refused refusal => exact .inl ⟨_, by rw [Visit.skip?, hFound]⟩
      | fault fault => exact absurd hFound (bindGroups_found h.lines group hGroup fault)
    | ok nodes =>
      right
      cases nodes with
      | nil => rfl
      | cons node rest =>
        have hNode : node ∈ (visitOf t.scene t.start group).nodes := by
          rw [Visit.nodes, hFound]
          exact List.mem_cons_self
        have hMem := (hAccounted.matched node).mpr ⟨group, hGroup, hNode⟩
        rw [hTried] at hMem
        cases hMem
  · intro hNone
    have hTried : triedNodes turns = [] := by
      refine List.eq_nil_iff_forall_not_mem.mpr fun node hNode => ?_
      obtain ⟨group, hGroup, hMatched⟩ := (hAccounted.matched node).mp hNode
      rcases hNone group hGroup with ⟨entry, hSkip⟩ | hFound
      · cases hFound : (visitOf t.scene t.start group).found with
        | error failure =>
          rw [Visit.nodes, hFound] at hMatched
          cases hMatched
        | ok nodes =>
          rw [Visit.skip?, hFound] at hSkip
          cases hSkip
      · rw [Visit.nodes, hFound] at hMatched
        cases hMatched
    rw [hTried, List.length_nil] at hTotal
    exact ⟨List.length_eq_zero_iff.mp (by omega), by omega⟩

/-- How an attempt ends whose calls all succeed, once it is known what the lines come to. -/
theorem Worked.settles {repo : Repository σ} (keeps : repo.KeepsOutcomes) {store : σ}
    {nextId : Nat} {log : List Log.Entry}
    (hAll : ∀ e ∈ exchanges repo t store nextId log, e.succeeded)
    (h : Worked t nextId (exchanges repo t store nextId log) plan header saved entries tally) :
    let o := (run repo t store nextId log).outcome
    (tally.lines = [] → 0 < tally.failed → o.status = .error ∧
        o.message = (tally.trail.add (Abort.noLines tally.failed).message).render) ∧
      ((tally.lines = [] → tally.failed = 0) →
        o.status = .success ∧ o.lineCount = tally.lines.length) := by
  obtain ⟨before, result, trail, last, answer, hEnded⟩ := run_ended repo t store nextId log
  rw [hEnded.made] at hAll h
  -- The calls before the record settle how the mapping ends; the record is kept as it is.
  have hBefore : ∀ e ∈ before, e.succeeded := fun e hMem => hAll e (List.mem_append_left _ hMem)
  have hAnswer := hAll (.record (settle t (closingStatus result) last).outcome answer) (by simp)
  obtain ⟨hResult, hTrail, hHeaded⟩ := hEnded.mapped.of_worked hBefore h.of_concat
  have hReply : (run repo t store nextId log).outcome =
      (settle t (closingStatus result) last).outcome := by
    rw [hEnded.reply keeps]
    cases answer with
    | error reason => cases hAnswer
    | ok recorded => rfl
  dsimp only
  rw [hReply]
  constructor
  · intro hNil hFailed
    have hGivenUp : result = .error (.noLines tally.failed) := by
      have hSome : tally.failed ≠ 0 := by omega
      rw [hResult, keptLines, hNil]
      simp [hSome, Except.map]
    refine ⟨by rw [hGivenUp]; rfl, ?_⟩
    show last.trail.render = _
    rw [hEnded.closed, hTrail, hGivenUp]
    rfl
  · intro hNone
    have hOk : result = .ok () := by
      rw [hResult, keptLines]
      split
      · next hFailed =>
        obtain ⟨hNil, hSome⟩ : tally.lines = [] ∧ tally.failed ≠ 0 := by simpa using hFailed
        exact absurd (hNone hNil) hSome
      · rfl
    refine ⟨by rw [hOk]; rfl, ?_⟩
    obtain ⟨header', count, hCount, -, hLineCount⟩ := hEnded.recorded keeps hOk
    rw [hHeaded hOk] at hCount
    cases hCount
    exact hLineCount

/-- An attempt whose calls all succeed ends well and without lines exactly if every group of line rules
matches no node or has a path that cannot be evaluated. If lines have been tried and all have failed, it
has failed. -/
theorem run_lineless_iff {repo : Repository σ} (keeps : repo.KeepsOutcomes) (t : Task) (store : σ)
    (nextId : Nat) (log : List Log.Entry)
    (hAll : ∀ e ∈ exchanges repo t store nextId log, e.succeeded) :
    ((run repo t store nextId log).outcome.status = .success ∧
        (run repo t store nextId log).outcome.lineCount = 0 ↔
      ∃ plan header saved entries tally,
        Worked t nextId (exchanges repo t store nextId log) plan header saved entries tally ∧
        ∀ group ∈ plan.groups, (∃ entry, (visitOf t.scene t.start group).skip? = some entry) ∨
          (visitOf t.scene t.start group).found = .ok []) ∧
    ∀ plan header saved entries tally,
      Worked t nextId (exchanges repo t store nextId log) plan header saved entries tally →
      tally.lines = [] → 0 < tally.failed →
      (run repo t store nextId log).outcome.status = .error ∧
        (run repo t store nextId log).outcome.message =
          (tally.trail.add (Abort.noLines tally.failed).message).render := by
  refine ⟨⟨?_, ?_⟩, fun plan header saved entries tally h => (h.settles keeps hAll).1⟩
  · rintro ⟨hStatus, hCount⟩
    obtain ⟨plan, header, saved, entries, tally, hWorked, -⟩ := run_worked keeps hStatus
    obtain ⟨hFails, hKeeps⟩ := hWorked.settles keeps hAll
    have hNone : tally.lines = [] → tally.failed = 0 := by
      intro hNil
      rcases Nat.eq_zero_or_pos tally.failed with hZero | hSome
      · exact hZero
      · have hError := (hFails hNil hSome).1
        rw [hStatus] at hError
        cases hError
    have hNil : tally.lines = [] := by
      have hSame := (hKeeps hNone).2
      rw [hCount] at hSame
      exact List.length_eq_zero_iff.mp hSame.symm
    exact ⟨plan, header, saved, entries, tally, hWorked, hWorked.lineless_iff.mp ⟨hNil, hNone hNil⟩⟩
  · rintro ⟨plan, header, saved, entries, tally, hWorked, hGroups⟩
    obtain ⟨hNil, hFailed⟩ := hWorked.lineless_iff.mpr hGroups
    obtain ⟨hStatus, hCount⟩ := (hWorked.settles keeps hAll).2 fun _ => hFailed
    rw [hNil] at hCount
    exact ⟨hStatus, hCount⟩

/-- An order has items, but no articles. -/
theorem run_lineless_iff_noArticle :
    let repo := Memory.repository fun _ _ _ => none
    let store : Memory := { rules := [(none, { quantityRule with sourcePath := some "Article/Qty" })] }
    let t : Task := { orderOf "2" with settings := { discoversLines := false } }
    repo.KeepsOutcomes ∧ (∀ e ∈ exchanges repo t store 1 [], e.succeeded) ∧
      ∃ plan header saved entries tally,
        Worked t 1 (exchanges repo t store 1 []) plan header saved entries tally ∧
        ∀ group ∈ plan.groups, (∃ entry, (visitOf t.scene t.start group).skip? = some entry) ∨
          (visitOf t.scene t.start group).found = .ok [] := by
  intro repo store t
  have keeps : repo.KeepsOutcomes := Memory.repository_keepsOutcomes _
  have hAll : ∀ e ∈ exchanges repo t store 1 [], e.succeeded := by decide +kernel
  have hEnds : (run repo t store 1 []).outcome.status = .success ∧
      (run repo t store 1 []).outcome.lineCount = 0 := by decide +kernel
  exact ⟨keeps, hAll, (run_lineless_iff keeps t store 1 [] hAll).1.mp hEnds⟩

/-- A rule for the quantity of an item whose path is no path. -/
def strayQuantityRule : Rule := { quantityRule with sourcePath := some "/Order/[x]/Qty" }

/-- The only group of line rules is skipped, so the item of the order is lost; the attempt counts as a
success all the same. -/
theorem run_lineless_skippedGroup :
    let repo := Memory.repository fun _ _ _ => none
    let store : Memory := { rules := [(none, strayQuantityRule)] }
    let t := orderOf "2"
    repo.KeepsOutcomes ∧ (∀ e ∈ exchanges repo t store 1 [], e.succeeded) ∧
      (Plan.ofRules [] [strayQuantityRule]).value.groups = [⟨"/Order/[x]", [strayQuantityRule]⟩] ∧
      (visitOf t.scene t.start ⟨"/Order/[x]", [strayQuantityRule]⟩).skip?.isSome ∧
      (run repo t store 1 []).outcome.status = .success ∧
      (run repo t store 1 []).outcome.lineCount = 0 ∧
      (run repo t store 1 []).outcome.message =
        some "Line group /Order/[x]: Cannot evaluate path '/Order/[x]': Invalid expression" := by
  intro repo store t
  exact ⟨Memory.repository_keepsOutcomes _, by decide +kernel⟩

end Attempt

end Intake
