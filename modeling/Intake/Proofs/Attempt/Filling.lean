import Intake.Proofs.Attempt.Writing
import Intake.Proofs.Mapping.Typing

/-! What the header and the lines hold that an attempt hands to its store: what they were made with,
and in the fields that rules fill the value of the last rule that fills them. -/

namespace Intake

open Mapping

namespace Record

variable {s : MappingSettings} {now : Calendar.DateTime} {kind : DocumentKind}

theorem names_ofValues (type : RecordType) (values : List (String × Option Value)) :
    (ofValues type values).entries.map Prod.fst = type.fields.map Field.name := by
  rw [ofValues, List.map_map]
  rfl

end Record

namespace Attempt

variable {t : Task} {plan : Plan} {trail trail' : Trail} {id : Nat} {es : List Exchange}

/-- A header that is mapped is a fresh one that the header rules have filled. -/
theorem boundHeader_filledBy {header : Record} {rules : List Rule}
    (h : boundHeader t trail id rules = (.ok header, trail')) :
    FilledBy t.scene t.start headerPath rules
      (Record.freshHeader t.settings t.now t.kind id t.clientId) header := by
  obtain ⟨entries, hCourse, -, -⟩ := bindHeader_ok h
  refine filledBy_of_filled (Record.names_ofValues _ _) (hCourse.filled ?_)
  exact t.kind.headerType_isOpen

/-- The turn in which a line was bound comes after those in which the lines before it were. -/
theorem exists_turn_of_boundRecords {turns : List Turn} {i : Nat} {line : Record}
    (h : (boundRecords turns)[i]? = some line) :
    ∃ before place index node after,
      turns = before ++ .tried place index node (.bound line) :: after ∧
      (boundRecords before).length = i := by
  induction turns generalizing i with
  | nil => cases h
  | cons turn rest ih =>
    have hStep : ∀ more, boundRecords (turn :: more) = boundRecords [turn] ++ boundRecords more :=
      boundRecords_append [turn]
    rw [hStep] at h
    match turn, h, hStep with
    | .skipped place entry, h, hStep =>
      obtain ⟨before, place', index, node, after, rfl, rfl⟩ := ih h
      exact ⟨_ :: before, place', index, node, after, rfl, by rw [hStep]; rfl⟩
    | .tried place index node (.excluded entry), h, hStep =>
      obtain ⟨before, place', index', node', after, rfl, rfl⟩ := ih h
      exact ⟨_ :: before, place', index', node', after, rfl, by rw [hStep]; rfl⟩
    | .tried place index node (.bound bound), h, hStep =>
      cases i with
      | zero =>
        cases h
        exact ⟨[], place, index, node, rest, rfl, rfl⟩
      | succ i =>
        obtain ⟨before, place', index', node', after, rfl, rfl⟩ := ih h
        refine ⟨_ :: before, place', index', node', after, rfl, ?_⟩
        rw [hStep, List.length_append, Nat.add_comm]
        rfl

/-- A line that is filled by the rules of a group, at a node that the group matches, from the fresh
line with a number that a header has. -/
def LineFilled (t : Task) (plan : Plan) (header : Record) (number : Int) (line : Record) : Prop :=
  ∃ group ∈ plan.groups, ∃ node ∈ (visitOf t.scene t.start group).nodes, ∃ id,
    FilledBy t.scene (.row node) (linePath group.parent) group.rules
      (Record.freshLine t.settings t.now t.kind id header number t.clientId) line

/-- Every line of a tally is filled by the rules of one of the groups. -/
theorem boundLines_filled {header line : Record} {i : Nat}
    (h : (boundLines t trail id header plan.groups).1 = .ok ())
    (hLine : (boundLines t trail id header plan.groups).2.lines[i]? = some line) :
    LineFilled t plan header (1 + i : Nat) line := by
  obtain ⟨turns, hAccounted⟩ := boundLines_accounted t trail id header plan.groups h
  rw [hAccounted.accounts.lines] at hLine
  obtain ⟨before, place, index, node, after, hSplit, rfl⟩ := exists_turn_of_boundRecords hLine
  obtain ⟨visit, hFirst⟩ := hAccounted.accounts.tried before place index node _ after hSplit
  obtain ⟨group, hGroup, rfl⟩ := List.mem_map.mp (List.mem_of_getElem? hFirst.visited)
  obtain ⟨hRules, -⟩ := bindLine_eq_bound hFirst.result
  refine ⟨group, hGroup, node, List.mem_of_getElem? hFirst.matched.2, _,
    filledBy_of_filled (Record.names_ofValues _ _) (applyLineRules_filled ?_ hRules)⟩
  exact t.kind.lineType_isOpen

/-- The header that is handed to a store is filled by the header rules. -/
theorem Completion.header_filledBy {result : Except Abort Unit} {header : Record}
    {answer : Except String (Option Record)}
    (h : Completion t plan trail id es result trail') (hMem : .saveHeader header answer ∈ es) :
    FilledBy t.scene t.start headerPath plan.headerRules
      (Record.freshHeader t.settings t.now t.kind id t.clientId) header := by
  cases h with
  | headerFailed hBound => cases hMem
  | headerUnsaved hBound | linesFailed hBound | noLines hBound | linesSaved _ hBound =>
    obtain ⟨rfl, -⟩ : header = _ ∧ answer = _ := by simpa using hMem
    exact boundHeader_filledBy hBound

/-- The lines that are handed to a store are filled by the rules of the groups, for the header that
came back. -/
theorem Completion.lines_filled {result : Except Abort Unit} {lines : List Record}
    {answer : Except String Unit} (h : Completion t plan trail id es result trail')
    (hMem : .saveLines lines answer ∈ es) :
    ∃ header saved, .saveHeader header (.ok (some saved)) ∈ es ∧
      ∀ i line, lines[i]? = some line → LineFilled t plan saved (1 + i : Nat) line := by
  cases h with
  | @linesSaved header saved _ _ _ answer' hBound hSaved hKept hLines =>
    obtain ⟨rfl, -⟩ := savedHeader_eq_ok hSaved
    obtain ⟨rfl, rfl⟩ : lines = _ ∧ answer = _ := by simpa using hMem
    obtain ⟨hOk, rfl, -⟩ := keptLines_eq_ok hKept
    exact ⟨header, saved, List.mem_cons_self, fun i line hLine => boundLines_filled hOk hLine⟩
  | _ => simp at hMem

/-- All that an attempt hands to its store, by the rules that the store answered with. The header is
a fresh one that the header rules of their plan have filled; each line is a fresh line of the header
that came back, numbered by its place and filled by the rules of one of the groups. -/
structure Filled (t : Task) (id : Nat) (es : List Exchange) : Prop where
  header : ∀ header answer, .saveHeader header answer ∈ es →
    ∃ headerRules lineRules,
      .rules t.interfaceId t.kind.headerType.table (.ok (some headerRules)) ∈ es ∧
      .rules t.interfaceId t.kind.lineType.table (.ok (some lineRules)) ∈ es ∧
      FilledBy t.scene t.start headerPath (Plan.ofRules headerRules lineRules).value.headerRules
        (Record.freshHeader t.settings t.now t.kind id t.clientId) header
  lines : ∀ lines answer, .saveLines lines answer ∈ es →
    ∃ headerRules lineRules header saved,
      .rules t.interfaceId t.kind.headerType.table (.ok (some headerRules)) ∈ es ∧
      .rules t.interfaceId t.kind.lineType.table (.ok (some lineRules)) ∈ es ∧
      .saveHeader header (.ok (some saved)) ∈ es ∧
      ∀ i line, lines[i]? = some line →
        LineFilled t (Plan.ofRules headerRules lineRules).value saved (1 + i : Nat) line

/-- All that an attempt hands to its store is typed. -/
theorem Filled.isTyped (h : Filled t id es) :
    (∀ header answer, .saveHeader header answer ∈ es → header.IsTyped) ∧
      ∀ lines answer, .saveLines lines answer ∈ es → ∀ line ∈ lines, line.IsTyped := by
  constructor
  · intro header answer hMem
    obtain ⟨headerRules, lineRules, -, -, hFilled⟩ := h.header header answer hMem
    exact hFilled.isTyped (Record.freshHeader_isTyped _ _ _ _ _) t.kind.headerType_isDefinite
  · intro lines answer hMem line hLine
    obtain ⟨headerRules, lineRules, header, saved, -, -, -, hLines⟩ := h.lines lines answer hMem
    obtain ⟨i, hAt⟩ := List.mem_iff_getElem?.mp hLine
    obtain ⟨group, -, node, -, id', hFilled⟩ := hLines i line hAt
    exact hFilled.isTyped (Record.freshLine_isTyped _ _ _ _ _ _ _) t.kind.lineType_isDefinite

theorem Mapped.filled {o : Outcome} {result : Except Abort Unit}
    (h : Mapped t o trail id es result trail') : Filled t id es := by
  cases h with
  | unplanned hPrelude =>
    constructor
    · intro header answer hMem
      exact absurd hMem (hPrelude.saveHeader_notMem header answer)
    · intro lines answer hMem
      exact absurd hMem (hPrelude.saveLines_notMem lines answer)
  | planned hPrelude hCompletion =>
    obtain ⟨headerRules, lineRules, rfl, hHeaderRules, hLineRules⟩ := hPrelude.planned_rules
    constructor
    · intro header answer hMem
      rcases List.mem_append.mp hMem with hEarly | hLate
      · exact absurd hEarly (hPrelude.saveHeader_notMem header answer)
      · exact ⟨headerRules, lineRules, List.mem_append_left _ hHeaderRules,
          List.mem_append_left _ hLineRules, hCompletion.header_filledBy hLate⟩
    · intro lines answer hMem
      rcases List.mem_append.mp hMem with hEarly | hLate
      · exact absurd hEarly (hPrelude.saveLines_notMem lines answer)
      · obtain ⟨header, saved, hSaved, hFilled⟩ := hCompletion.lines_filled hLate
        exact ⟨headerRules, lineRules, header, saved, List.mem_append_left _ hHeaderRules,
          List.mem_append_left _ hLineRules, List.mem_append_right _ hSaved, hFilled⟩

/-- Whatever the store answers, an attempt hands it records that the rules have filled. -/
theorem exchanges_filled {σ : Type} (repo : Repository σ) (t : Task) (store : σ) (nextId : Nat)
    (log : List Log.Entry) : Filled t (nextId + 1) (exchanges repo t store nextId log) := by
  obtain ⟨before, result, trail, closing, answer, hExchanges, hMapped, -⟩ :=
    run_traced repo t store nextId log
  have hFilled := hMapped.filled
  rw [hExchanges]
  constructor
  · intro header answer' hMem
    have hBefore : .saveHeader header answer' ∈ before := by simpa using hMem
    obtain ⟨headerRules, lineRules, hRules, hRules', hHeader⟩ := hFilled.header _ _ hBefore
    exact ⟨headerRules, lineRules, List.mem_append_left _ hRules, List.mem_append_left _ hRules',
      hHeader⟩
  · intro lines answer' hMem
    have hBefore : .saveLines lines answer' ∈ before := by simpa using hMem
    obtain ⟨headerRules, lineRules, header, saved, hRules, hRules', hSaved, hLines⟩ :=
      hFilled.lines _ _ hBefore
    exact ⟨headerRules, lineRules, header, saved, List.mem_append_left _ hRules,
      List.mem_append_left _ hRules', List.mem_append_left _ hSaved, hLines⟩

/-- A rule for the number of an order, its field spelled freely. -/
def numberRule : Rule where
  name := "number"
  targetField := "Order-NUMBER"
  tableName := DocumentKind.order.headerType.table
  sourcePath := some "Item/Qty"

/-- The header of an order for an owner: its number comes from the document, its owner does not. -/
theorem exchanges_filled_orderNumber :
    let repo := Memory.repository fun _ _ _ => none
    let store : Memory := { rules := [(none, numberRule)] }
    let t := { orderOf "2" with clientId := some 7 }
    Filled t 2 (exchanges repo t store 1 []) ∧
      (exchanges repo t store 1 []).any fun
        | .saveHeader header _ => header.get? "order_number" == some (.text "2") &&
            header.get? "client_id" == some (.whole 7)
        | _ => false := by
  intro repo store t
  exact ⟨exchanges_filled repo t store 1 [], by decide +kernel⟩

end Attempt

end Intake
