import Intake.Proofs.Chain.Faults
import Intake.Proofs.Mapping.Apply
import Intake.Proofs.Query.Faults
import Intake.Proofs.Record.Targets

/-! Where applying rules comes to a fault. Rules that do not fit a document are refused, whatever the
document holds and whatever the rules say; faults come from paths and chains alone. -/

namespace Intake

namespace Binding

/-- A chain that comes to a fault is the only way in which binding a rule to a record comes to one,
or to an end other than a refusal. -/
theorem bind_fault {c : Chain.Context} {record : Record} {rule : Rule} {raw : Option String}
    {failure : Failure} (hOpen : record.type.IsOpen)
    (h : (bind c record rule raw).value = .error failure) :
    (∃ refusal, failure = .refused refusal) ∨
      ∃ field text fault, failure = .fault fault ∧
        record.type.target? rule.targetField = some field ∧ rawText rule raw = some text ∧
        Chain.FaultCause c text rule.transformation field.type fault := by
  unfold bind at h
  rw [hOpen.targets] at h
  dsimp only at h
  split at h
  · cases h
    exact .inl ⟨_, rfl⟩
  · rename_i field hField
    split at h
    · split at h <;> cases h
      exact .inl ⟨_, rfl⟩
    · rename_i text hText
      have hFill := map_eq_error.mp h
      unfold fill at hFill
      split at hFill
      · rename_i hTransform
        rw [Logged.value_bind] at hFill
        split at hFill
        · cases hFill
          exact .inl ⟨_, rfl⟩
        · cases hFill
          exact .inr ⟨field, text, _, rfl, hField, hText, Chain.transform_fault hTransform⟩
      · cases hFill
      · have hAssign : ∀ value, assign record field value = .ok (record.set field.name value) := by
          intro value
          simp [assign, hOpen.objections field (RecordType.mem_of_target? hField).1]
        rw [hAssign] at hFill
        cases hFill

end Binding

namespace Mapping

open XPath

/-- What brings applying a rule to a fault: its path, or its chain over the text that was found. -/
inductive FaultCause (s : Scene) (n : Node) (record : Record) (rule : Rule) (path : String)
    (fault : Fault) : Prop
  | path : Query.FaultCause s.spaces path fault → FaultCause s n record rule path fault
  | chain {found : Option String} {text : String} {field : Field} :
      (rawText s n record rule path).value = .ok found →
      record.type.target? rule.targetField = some field →
      Binding.rawText rule found = some text →
      Chain.FaultCause s.chains text rule.transformation field.type fault →
      FaultCause s n record rule path fault

/-- A rule that is not applied is refused, or comes to a fault. -/
theorem applyRule_error {s : Scene} {n : Node} {record : Record} {rule : Rule} {path : String}
    {failure : Binding.Failure} (hOpen : record.type.IsOpen)
    (h : (applyRule s n record rule path).value = .error failure) :
    (∃ refusal, failure = .refused refusal) ∨
      ∃ fault, failure = .fault fault ∧ FaultCause s n record rule path fault := by
  unfold applyRule at h
  rw [Logged.value_bind] at h
  split at h
  · rename_i hRaw
    cases h
    unfold rawText at hRaw
    split at hRaw
    · cases hRaw
    · rw [Logged.value_bind] at hRaw
      split at hRaw
      · cases hRaw
      · cases hRaw
        exact .inl ⟨_, rfl⟩
      · rename_i fault hText
        cases hRaw
        exact .inr ⟨fault, rfl, .path (Query.text_fault hText)⟩
  · rename_i found hRaw
    rw [Logged.value_bind] at h
    split at h
    · rename_i hBind
      cases h
      rcases Binding.bind_fault hOpen hBind with h | ⟨field, text, fault, rfl, hField, hText, hChain⟩
      · exact .inl h
      · exact .inr ⟨fault, rfl, .chain hRaw hField hText hChain⟩
    · cases h

/-- What brings the lines of a group to a fault: the paths at which they are looked for, or a rule
that is applied to one of the nodes that were found. -/
inductive LineFaultCause (s : Scene) (n : Node) (group : LineGroup) (fault : Fault) : Prop
  | search {path : String} : path ∈ group.parent :: s.chains.settings.linePaths →
      Query.FaultCause s.spaces path fault → LineFaultCause s n group fault
  | rule {found : Query.LineMatch} {node : Nat} {record : Record} {rule : Rule} :
      (Query.findLines s.chains.settings s.document s.spaces n group.parent).value = .ok found →
      node ∈ found.nodes → rule ∈ group.rules →
      FaultCause s (.row node) record rule (Path.relative rule.sourcePath (some group.parent))
        fault →
      LineFaultCause s n group fault

variable {s : Scene} {checks : Checks} {n : Node} {fresh : Nat → Nat → Record}

theorem applyLineRules_error {parent : String} {index : Nat} {line : Record} {rules : List Rule}
    {failure : Binding.Failure} (hOpen : line.type.IsOpen)
    (h : (applyLineRules s n parent index line rules).value = .error failure) :
    ∃ fault, failure = .fault fault ∧ ∃ rule ∈ rules, ∃ record,
      FaultCause s n record rule (Path.relative rule.sourcePath (some parent)) fault := by
  replace h := applyLineRules_course h
  generalize hResult : Except.error failure = result at h
  induction h with
  | @applied line next rule rest result hNext _ ih =>
    have hType : next.type = line.type := (applyRule_assigned hNext).type
    obtain ⟨fault, hFault, other, hOther, hCause⟩ := ih (hType ▸ hOpen) hResult
    exact ⟨fault, hFault, other, List.mem_cons_of_mem _ hOther, hCause⟩
  | @failed line rule rest failure' hRule hOther =>
    cases hResult
    rcases applyRule_error hOpen hRule with ⟨refusal, rfl⟩ | ⟨fault, hFault, hCause⟩
    · exact absurd rfl (hOther refusal)
    · exact ⟨fault, hFault, rule, List.mem_cons_self, line, hCause⟩
  | done | refused => cases hResult

theorem bindLine_error {group : LineGroup} {index : Nat} {line : Record}
    {failure : Binding.Failure} (hOpen : line.type.IsOpen)
    (h : (bindLine s checks n group index line).value = .error failure) :
    ∃ fault, failure = .fault fault ∧ ∃ rule ∈ group.rules, ∃ record,
      FaultCause s n record rule (Path.relative rule.sourcePath (some group.parent)) fault := by
  unfold bindLine at h
  rw [Logged.value_bind] at h
  split at h
  · split at h <;> cases h
  · exact applyLineRules_error hOpen h

theorem bindNodes_error {group : LineGroup} {index : Nat} {t t' : Tally} {nodes : List Nat}
    {failure : Binding.Failure} (hOpen : ∀ id number, (fresh id number).type.IsOpen)
    (h : (bindNodes s checks fresh group index t nodes).value = (.error failure, t')) :
    ∃ fault, failure = .fault fault ∧ ∃ node ∈ nodes, ∃ rule ∈ group.rules, ∃ record,
      FaultCause s (.row node) record rule (Path.relative rule.sourcePath (some group.parent))
        fault := by
  induction nodes generalizing index t with
  | nil => cases h
  | cons node rest ih =>
    have hRest : ∀ {index t},
        (bindNodes s checks fresh group index t rest).value = (.error failure, t') →
        ∃ fault, failure = .fault fault ∧ ∃ other ∈ node :: rest, ∃ rule ∈ group.rules, ∃ record,
          FaultCause s (.row other) record rule (Path.relative rule.sourcePath (some group.parent))
            fault := by
      intro index t h
      obtain ⟨fault, hFault, other, hOther, hCause⟩ := ih h
      exact ⟨fault, hFault, other, List.mem_cons_of_mem _ hOther, hCause⟩
    unfold bindNodes at h
    split at h
    · exact hRest h
    · rw [Logged.value_bind] at h
      split at h
      · rename_i hLine
        cases h
        obtain ⟨fault, hFault, hCause⟩ := bindLine_error (hOpen _ _) hLine
        exact ⟨fault, hFault, node, List.mem_cons_self, hCause⟩
      · exact hRest h

/-- Only a fault keeps the lines from being gone through to the end. -/
theorem bindGroups_error {t t' : Tally} {groups : List LineGroup} {failure : Binding.Failure}
    (hOpen : ∀ id number, (fresh id number).type.IsOpen)
    (h : (bindGroups s checks n fresh t groups).value = (.error failure, t')) :
    ∃ fault, failure = .fault fault ∧ ∃ group ∈ groups, LineFaultCause s n group fault := by
  induction groups generalizing t with
  | nil => cases h
  | cons group rest ih =>
    have hRest : ∀ {t}, (bindGroups s checks n fresh t rest).value = (.error failure, t') →
        ∃ fault, failure = .fault fault ∧
          ∃ other ∈ group :: rest, LineFaultCause s n other fault := by
      intro t h
      obtain ⟨fault, hFault, other, hOther, hCause⟩ := ih h
      exact ⟨fault, hFault, other, List.mem_cons_of_mem _ hOther, hCause⟩
    unfold bindGroups at h
    rw [Logged.value_bind] at h
    split at h
    · rename_i fault hFound
      cases h
      obtain ⟨path, hPath, hCause⟩ := Query.findLines_fault hFound
      exact ⟨fault, rfl, group, List.mem_cons_self, .search hPath hCause⟩
    · exact hRest h
    · rename_i found hFound
      rw [Logged.value_bind, Logged.value_bind] at h
      split at h
      · rename_i hNodes
        cases h
        obtain ⟨fault, hFault, node, hNode, rule, hRule, record, hCause⟩ :=
          bindNodes_error hOpen hNodes
        exact ⟨fault, hFault, group, List.mem_cons_self, .rule hFound hNode hRule hCause⟩
      · exact hRest h

end Mapping

end Intake
