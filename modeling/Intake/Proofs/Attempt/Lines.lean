import Intake.Proofs.Attempt.Stages
import Intake.Proofs.Mapping.Accounts
import Intake.Proofs.Record.Targets

/-! The lines that an attempt binds: every node that a group matches is tried once, by the first
group that matches it, and is bound or leaves an entry in the trail; the lines belong to the header
that was stored, and are numbered without a gap. -/

namespace Intake

open Mapping

/-- What a line holds that no rule can change, and what its quantity is held to. -/
structure Record.IsLineOf (line : Record) (t : Task) (header : Record) : Prop where
  headerId : ∃ id, header.id? = some id ∧ line.get? "header_id" = some (.identifier id)
  owner : line.get? "client_id" = (t.clientId <|> header.clientId?).map .whole
  quantity : ∃ n : Int, line.get? "quantity" = some (.whole n) ∧ 0 ≤ n

/-- Whether a rule reaches a field of a type by its name. -/
def Rule.Reaches (type : RecordType) (rule : Rule) (name : String) : Prop :=
  (type.target? rule.targetField).map Field.name = some name

namespace Record

variable {s : MappingSettings} {now : Calendar.DateTime} {kind : DocumentKind} {id : Nat}
  {header : Record} {number : Int} {clientId : Option Int}

theorem freshLine_type : (freshLine s now kind id header number clientId).type = kind.lineType :=
  rfl

theorem freshLine_header :
    (freshLine s now kind id header number clientId).get? "header_id" =
      header.id?.map .identifier := by
  cases kind <;> rfl

theorem freshLine_owner :
    (freshLine s now kind id header number clientId).get? "client_id" =
      (clientId <|> header.clientId?).map .whole := by
  cases kind <;> rfl

theorem freshLine_number :
    (freshLine s now kind id header number clientId).get? "line_number" =
      some (.text (toString number)) := by
  cases kind <;> rfl

theorem freshLine_quantity :
    (freshLine s now kind id header number clientId).get? "quantity" = some (.whole 0) := by
  cases kind <;> rfl

end Record

theorem Record.get?_set_of_some {r : Record} {name : String} {old value : Value}
    (h : r.get? name = some old) : (r.set name value).get? name = some value := by
  obtain ⟨entry, hEntry, -⟩ : ∃ entry, r.entries.lookup name = some entry ∧ entry = some old := by
    simpa [Record.get?, Option.join_eq_some_iff] using h
  rw [Record.get?_set, hEntry]
  simp

theorem Value.eq_whole {v : Value} (h : v.type = .whole) : ∃ n, v = .whole n := by
  cases v with
  | whole n => exact ⟨n, rfl⟩
  | _ => cases h

theorem DocumentKind.quantity_type (kind : DocumentKind) :
    ∀ field ∈ kind.lineType.fields, field.name = "quantity" → field.type = .single .whole := by
  cases kind <;> decide

/-- A rule leaves the fields alone that are out of the reach of rules. -/
theorem Binding.Assigned.get?_protected {record bound : Record} {rule : Rule} {name : String}
    (h : Assigned record rule bound) (hName : name ∈ protectedFields) :
    bound.get? name = record.get? name := by
  cases h with
  | unchanged => rfl
  | set hField hType hSuits =>
    apply Record.get?_set_of_ne
    rintro rfl
    exact (RecordType.mem_of_target? hField).2 hName

namespace Attempt

/-- What every rule keeps of a line. -/
structure Kept (t : Task) (header line : Record) : Prop where
  type : line.type = t.kind.lineType
  headerId : line.get? "header_id" = header.id?.map .identifier
  owner : line.get? "client_id" = (t.clientId <|> header.clientId?).map .whole
  quantity : ∃ n : Int, line.get? "quantity" = some (.whole n)

variable {t : Task} {header : Record}

theorem kept_freshLine (id : Nat) (number : Int) :
    Kept t header (Record.freshLine t.settings t.now t.kind id header number t.clientId) :=
  ⟨Record.freshLine_type, Record.freshLine_header, Record.freshLine_owner,
    0, Record.freshLine_quantity⟩

theorem Kept.assigned {line bound : Record} {rule : Rule} (h : Kept t header line)
    (hBound : Binding.Assigned line rule bound) : Kept t header bound := by
  refine ⟨hBound.type.trans h.type, (hBound.get?_protected (by decide)).trans h.headerId,
    (hBound.get?_protected (by decide)).trans h.owner, ?_⟩
  cases hBound with
  | unchanged => exact h.quantity
  | @set field type value hField hType hSuits =>
    obtain ⟨n, hn⟩ := h.quantity
    by_cases hName : field.name = "quantity"
    · have hMem := (RecordType.mem_of_target? hField).1
      have hWhole := t.kind.quantity_type field (h.type ▸ hMem) hName
      obtain rfl : ValueType.whole = type := by simpa [hWhole, FieldType.present] using hType
      obtain ⟨m, rfl⟩ := Value.eq_whole (hSuits.resolve_right (by simp))
      exact ⟨m, hName ▸ Record.get?_set_of_some (hName ▸ hn)⟩
    · rw [Record.get?_set_of_ne (Ne.symm hName)]
      exact h.quantity

/-- A line that passes the check has a header and no negative quantity. -/
theorem Kept.isLineOf {line : Record} (h : Kept t header line)
    (hCheck : t.checks.lineFlaw? line = none) : line.IsLineOf t header := by
  obtain ⟨n, hn⟩ := h.quantity
  have hFlaw : lineFlaw? line = none := (Option.or_eq_none_iff.mp hCheck).1
  unfold lineFlaw? at hFlaw
  split at hFlaw
  · cases hFlaw
  · rename_i hHeader
    rw [hn] at hFlaw
    refine ⟨?_, h.owner, n, hn, ?_⟩
    · rw [h.headerId] at hHeader ⊢
      cases hId : header.id? with
      | none => simp [hId] at hHeader
      | some id => exact ⟨id, rfl, rfl⟩
    · dsimp only at hFlaw
      split at hFlaw
      · cases hFlaw
      · omega

theorem kept_of_bindLine {n : XPath.Node} {group : LineGroup} {index id : Nat} {number : Int}
    {line : Record}
    (h : (bindLine t.scene t.checks n group index
      (Record.freshLine t.settings t.now t.kind id header number t.clientId)).value =
        .ok (.bound line)) : Kept t header line :=
  applyLineRules_keeps (fun _ _ _ _ hRecord hBound => hRecord.assigned hBound)
    (kept_freshLine id number) (bindLine_eq_bound h).1

/-- A line that is bound from a fresh one. -/
theorem isLineOf_of_bindLine {n : XPath.Node} {group : LineGroup} {index id : Nat} {number : Int}
    {line : Record}
    (h : (bindLine t.scene t.checks n group index
      (Record.freshLine t.settings t.now t.kind id header number t.clientId)).value =
        .ok (.bound line)) : line.IsLineOf t header :=
  (kept_of_bindLine h).isLineOf (bindLine_eq_bound h).2

/-- A line that no rule numbers keeps its number. -/
theorem number_of_bindLine {n : XPath.Node} {group : LineGroup} {index id : Nat} {number : Int}
    {line : Record}
    (hFree : ∀ rule ∈ group.rules, ¬rule.Reaches t.kind.lineType "line_number")
    (h : (bindLine t.scene t.checks n group index
      (Record.freshLine t.settings t.now t.kind id header number t.clientId)).value =
        .ok (.bound line)) : line.get? "line_number" = some (.text (toString number)) := by
  obtain ⟨hRules, -⟩ := bindLine_eq_bound h
  have hNumbered := applyLineRules_keeps
    (P := fun line => line.type = t.kind.lineType ∧
      line.get? "line_number" = some (.text (toString number))) ?_
    ⟨Record.freshLine_type, Record.freshLine_number⟩ hRules
  · exact hNumbered.2
  · rintro rule hRule record bound ⟨hType, hNumber⟩ hBound
    cases hBound with
    | unchanged => exact ⟨hType, hNumber⟩
    | @set field type value hField _ _ =>
      refine ⟨hType, ?_⟩
      rw [Record.get?_set_of_ne, hNumber]
      intro hName
      rw [hType] at hField
      exact hFree rule hRule (by rw [Rule.Reaches, hField, hName]; rfl)

/-- Lines of which each is known by how many have been bound before it. -/
theorem map_boundRecords {α : Type} {f : Record → α} {g : Nat → α} {turns : List Turn}
    {count : Nat}
    (h : ∀ before place index node line after,
      turns = before ++ .tried place index node (.bound line) :: after →
      f line = g (count + (boundRecords before).length)) :
    (boundRecords turns).map f = (List.range' count (boundRecords turns).length).map g := by
  induction turns generalizing count with
  | nil => rfl
  | cons turn rest ih =>
    have hStep : ∀ before, boundRecords (turn :: before) =
        boundRecords [turn] ++ boundRecords before := boundRecords_append [turn]
    have hRest : ∀ before place index node line after,
        rest = before ++ .tried place index node (.bound line) :: after →
        f line = g (count + (boundRecords [turn]).length + (boundRecords before).length) := by
      rintro before place index node line after rfl
      rw [Nat.add_assoc, ← List.length_append, ← hStep]
      exact h (turn :: before) place index node line after rfl
    rw [hStep]
    match turn, h, hRest with
    | .skipped _ _, _, hRest => exact ih hRest
    | .tried _ _ _ (.excluded _), _, hRest => exact ih hRest
    | .tried place index node (.bound line), h, hRest =>
      rw [boundRecords_bound, List.map_append, ih hRest, List.map_singleton,
        h [] place index node line rest rfl]
      rfl

/-- The accounts of the lines of an attempt. The nodes that are tried are those that some group
matches; as many lines are bound or fail as there are such nodes; the lines belong to the header,
and are numbered from 1 on unless rules number them. -/
structure LinesAccounted (t : Task) (trail : Trail) (id : Nat) (header : Record)
    (groups : List LineGroup) (turns : List Turn) (tally : Tally) : Prop where
  accounts : Accounts t.scene t.checks
    (fun id number => Record.freshLine t.settings t.now t.kind id header number t.clientId)
    trail id (groups.map (visitOf t.scene t.start)) turns tally
  matched : ∀ node, node ∈ triedNodes turns ↔
    ∃ group ∈ groups, node ∈ (visitOf t.scene t.start group).nodes
  total : tally.lines.length + tally.failed = (triedNodes turns).length
  lines : ∀ line ∈ tally.lines, line.IsLineOf t header
  numbers : (∀ group ∈ groups, ∀ rule ∈ group.rules,
      ¬rule.Reaches t.kind.lineType "line_number") →
    tally.lines.map (·.get? "line_number") =
      (List.range' 1 tally.lines.length).map fun n => some (.text (toString n))

/-- Every line of a tally has been bound from a fresh one. -/
theorem exists_bindLine {trail : Trail} {id : Nat} {visits : List Visit} {turns : List Turn}
    {tally : Tally} {line : Record}
    (hAccounts : Accounts t.scene t.checks
      (fun id number => Record.freshLine t.settings t.now t.kind id header number t.clientId)
      trail id visits turns tally) (hLine : line ∈ tally.lines) :
    ∃ n group index id number, (bindLine t.scene t.checks n group index
      (Record.freshLine t.settings t.now t.kind id header number t.clientId)).value =
        .ok (.bound line) := by
  rw [hAccounts.lines] at hLine
  obtain ⟨turn, hTurn, hBoundLine⟩ := List.mem_filterMap.mp hLine
  match turn, hTurn, hBoundLine with
  | .tried place index node (.bound bound), hTurn, hBoundLine =>
    cases hBoundLine
    obtain ⟨before, after, hSplit⟩ := List.append_of_mem hTurn
    obtain ⟨visit, hFirst⟩ := hAccounts.tried before place index node _ after hSplit
    exact ⟨_, _, _, _, _, hFirst.result⟩

theorem LinesAccounted.of_accounts {trail : Trail} {id : Nat} {groups : List LineGroup}
    {turns : List Turn} {tally : Tally}
    (hAccounts : Accounts t.scene t.checks
      (fun id number => Record.freshLine t.settings t.now t.kind id header number t.clientId)
      trail id (groups.map (visitOf t.scene t.start)) turns tally) :
    LinesAccounted t trail id header groups turns tally := by
  refine ⟨hAccounts, ?_, ?_, ?_, ?_⟩
  · intro node
    rw [hAccounts.mem_triedNodes]
    constructor
    · rintro ⟨visit, hVisit, hNode⟩
      obtain ⟨group, hGroup, rfl⟩ := List.mem_map.mp hVisit
      exact ⟨group, hGroup, hNode⟩
    · rintro ⟨group, hGroup, hNode⟩
      exact ⟨_, List.mem_map_of_mem hGroup, hNode⟩
  · rw [hAccounts.lines, hAccounts.failed, length_triedNodes]
  · intro line hLine
    obtain ⟨n, group, index, id, number, hBound⟩ := exists_bindLine hAccounts hLine
    exact isLineOf_of_bindLine hBound
  · intro hFree
    rw [hAccounts.lines]
    refine map_boundRecords fun before place index node line after hSplit => ?_
    obtain ⟨visit, hFirst⟩ := hAccounts.tried before place index node _ after hSplit
    obtain ⟨group, hGroup, rfl⟩ := List.mem_map.mp (List.mem_of_getElem? hFirst.visited)
    exact number_of_bindLine (hFree group hGroup) hFirst.result

/-- Lines that are bound without a fault are accounted for. -/
theorem boundLines_accounted (t : Task) (trail : Trail) (id : Nat) (header : Record)
    (groups : List LineGroup) (h : (boundLines t trail id header groups).1 = .ok ()) :
    ∃ turns, LinesAccounted t trail id header groups turns
      (boundLines t trail id header groups).2 := by
  rcases hBound : boundLines t trail id header groups with ⟨result, tally⟩
  obtain rfl : result = .ok () := by rw [hBound] at h; exact h
  obtain ⟨turns, hAccounts⟩ := bindGroups_accounts Accounts.start hBound
  rw [List.nil_append] at hAccounts
  exact ⟨turns, .of_accounts hAccounts⟩

/-- An order with one item. -/
def oneItem : Task where
  kind := .order
  settings := {}
  now := default
  document := .ofParts ⟨[], ⟨⟨none, none, "Order"⟩, [], []⟩,
    [.element ⟨⟨none, none, "Item"⟩, [], []⟩ []], []⟩

/-- Two groups match the item; the second one passes over it. -/
theorem boundLines_accounted_oneItem :
    let header := Record.freshHeader {} default .order 2 none
    let groups := [⟨"Item", []⟩, ⟨"*", []⟩]
    (boundLines oneItem ⟨1000, []⟩ 3 header groups).1 = .ok () ∧
      (∃ turns, LinesAccounted oneItem ⟨1000, []⟩ 3 header groups turns
        (boundLines oneItem ⟨1000, []⟩ 3 header groups).2) ∧
      (boundLines oneItem ⟨1000, []⟩ 3 header groups).2.lines.length = 1 := by
  intro header groups
  have hOk : (boundLines oneItem ⟨1000, []⟩ 3 header groups).1 = .ok () :=
    eq_ok_of_isOk (by decide +kernel)
  exact ⟨hOk, boundLines_accounted oneItem ⟨1000, []⟩ 3 header groups hOk, by decide +kernel⟩

/-- The lines of an attempt for no client go to the client that the stored header is for. -/
theorem boundLines_headerClient :
    let header := Record.freshHeader {} default .order 2 (some 5)
    let bound := boundLines oneItem ⟨1000, []⟩ 3 header [⟨"Item", []⟩]
    oneItem.clientId = none ∧ bound.1.isOk ∧
      bound.2.lines.map (·.get? "client_id") = [some (.whole 5)] := by
  decide +kernel

end Attempt

end Intake
