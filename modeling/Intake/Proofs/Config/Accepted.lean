import Intake.Config.Basic
import Intake.Proofs.Chain.Names
import Intake.Service

/-! What the checks of a configuration are good for when documents are processed with it. The feed of
an accepted configuration has the tag of a kind, so every document of the feed is of that kind. The
chains of its rules call operations, with one exception: the checks let a step pass that has an idle
name and a colon behind it, although a chain stops at it. -/

namespace Intake.Config

open Chain (Operation)

theorem check_eq_ok {c config : Config} (h : check c = .ok config) :
    config = c ∧ (∃ kind, DocumentKind.ofTag? c.interface.kindTag = some kind) ∧
      ∀ rule ∈ c.rules, unknownOperation? rule = none := by
  unfold check at h
  split at h
  · cases h
  · next kind hKind =>
    split at h
    · cases h
    · next hKnown =>
      cases h
      refine ⟨rfl, ⟨kind, hKind⟩, fun rule hRule => ?_⟩
      exact Option.map_eq_none_iff.mp (List.findSome?_eq_none_iff.mp hKnown rule hRule)

/-- A configuration that is read has passed the checks. -/
theorem ofJson_eq_ok {j : Json} {config : Config} (h : ofJson j = .ok config) :
    (∃ kind, DocumentKind.ofTag? config.interface.kindTag = some kind) ∧
      ∀ rule ∈ config.rules, unknownOperation? rule = none := by
  cases j with
  | object members =>
    obtain ⟨interface, -, h⟩ := bind_eq_ok.mp h
    obtain ⟨items, -, h⟩ := bind_eq_ok.mp h
    obtain ⟨rules, -, h⟩ := bind_eq_ok.mp h
    obtain ⟨rfl, hChecked⟩ := check_eq_ok h
    exact hChecked
  | _ => cases h

/-- The steps of a rule that passes the check have the names of operations or idle ones. -/
theorem name_of_checked {rule : Rule} (h : unknownOperation? rule = none) {step : Chain.Step}
    (hStep : step ∈ Chain.steps rule.transformation) :
    step.name ∈ Chain.idleNames ∨ ∃ op, Operation.ofName? step.name = some op := by
  have hKnown := List.find?_eq_none.mp h step.name (List.mem_map_of_mem hStep)
  have hSupported : Chain.isSupported step.name = true := by simpa using hKnown
  rw [Chain.Step.isSupported_name hStep] at hSupported
  simpa [Option.isSome_iff_exists] using hSupported

theorem ofTag?_eq_some {tag : String} {kind : DocumentKind}
    (h : DocumentKind.ofTag? tag = some kind) : Text.upper (Text.trim tag) = kind.tag := by
  have hFound := List.find?_some (p := fun kind : DocumentKind =>
    kind.tag == Text.upper (Text.trim tag)) h
  exact (eq_of_beq hFound).symm

theorem ofTag?_tag (kind : DocumentKind) : DocumentKind.ofTag? kind.tag = some kind := by
  cases kind <;> decide +kernel

/-- A document of a feed is of the kind that the feed's tag stands for. -/
theorem ofTag?_kindTagOf (interface : Stored Interface) (d : Xml.Document) {kind : DocumentKind}
    (h : DocumentKind.ofTag? interface.value.kindTag = some kind) :
    DocumentKind.ofTag? (Service.kindTagOf d (some interface)) = some kind := by
  have hNonempty : interface.value.kindTag.isEmpty = false := by
    rw [← Bool.not_eq_true, String.isEmpty_iff]
    intro hEmpty
    rw [hEmpty] at h
    exact absurd h (by revert kind; decide +kernel)
  rw [Service.kindTagOf]
  simp only [hNonempty, Bool.false_eq_true, if_false]
  rw [ofTag?_eq_some h, ofTag?_tag]

/-- What an accepted configuration is good for. Its feed has the tag of a kind. A chain of one of its
rules is refused for an unknown name only if the name is an idle one with a colon behind it; a chain
with such a name never ends with a text. -/
theorem ofJson_agrees {j : Json} {config : Config} (h : ofJson j = .ok config) :
    (∃ kind, ∀ d id,
      DocumentKind.ofTag? (Service.kindTagOf d (some ⟨id, config.interface⟩)) = some kind) ∧
    ∀ rule ∈ config.rules, ∀ c raw,
      (∀ r name, Chain.apply c raw rule.transformation = .error (.refused r) →
        r.cause = .unknown name →
          name ∈ Chain.idleNames ∧
            ∃ piece ∈ Text.pieces '|' (rule.transformation.getD "").toList, ':' ∈ piece ∧
              (Chain.Step.ofChars (Text.trimmed piece)).name = name) ∧
      ((∃ step ∈ Chain.steps rule.transformation, step.name ∈ Chain.idleNames) →
        ∀ t, Chain.apply c raw rule.transformation ≠ .ok t) := by
  obtain ⟨⟨kind, hKind⟩, hRules⟩ := ofJson_eq_ok h
  refine ⟨⟨kind, fun d id => ofTag?_kindTagOf ⟨id, config.interface⟩ d hKind⟩, fun rule hRule c raw => ⟨?_, ?_⟩⟩
  · intro r name hApply hCause
    obtain ⟨step, hStep, rfl, hUnknown⟩ := Chain.apply_unknown hApply hCause
    have hIdle : step.name ∈ Chain.idleNames := by
      rcases name_of_checked (hRules rule hRule) hStep with hIdle | ⟨op, hOp⟩
      · exact hIdle
      · rw [hOp] at hUnknown
        cases hUnknown
    exact ⟨hIdle, Chain.Step.colon_of_idle hStep hIdle⟩
  · rintro ⟨step, hStep, hIdle⟩ t hApply
    obtain ⟨op, hOp⟩ := Chain.ofName?_of_apply hApply step hStep
    rw [Chain.ofName?_of_idle hIdle] at hOp
    cases hOp

/-- A rule that is accepted although its chain stops at "null:2" whatever it is given. -/
theorem ofJson_agrees_nullWithPlaces :
    let j : Json := .object
      [("interface", .object [("name", .text "orders"), ("interface_type", .text " order ")]),
        ("rules", .list [.object
          [("name", .text "weight"), ("target_field", .text "total_weight"),
            ("table_name", .text "order_headers"), ("transformation", .text "Trim|null: 2")]])]
    ∃ config, ofJson j = .ok config ∧
      (∃ kind, ∀ d id,
        DocumentKind.ofTag? (Service.kindTagOf d (some ⟨id, config.interface⟩)) = some kind) ∧
      ∃ rule ∈ config.rules, ∀ c raw t, Chain.apply c raw rule.transformation ≠ .ok t := by
  intro j
  let rule : Rule :=
    { name := "weight", targetField := "total_weight", tableName := "order_headers"
      transformation := some "Trim|null: 2" }
  have hRead : ofJson j = .ok ⟨{ name := "orders", kindTag := " order " }, [rule]⟩ := rfl
  obtain ⟨hKind, hRules⟩ := ofJson_agrees hRead
  have hIdle : ∃ step ∈ Chain.steps rule.transformation, step.name ∈ Chain.idleNames := by
    decide +kernel
  refine ⟨_, hRead, hKind, rule, List.mem_singleton.mpr rfl, fun c raw => ?_⟩
  exact (hRules rule (List.mem_singleton.mpr rfl) c raw).2 hIdle

/-- The checks let "none:5" pass, and the chain does not know it. -/
theorem ofJson_noneWithPlaces :
    let j : Json := .object
      [("interface", .object [("name", .text "orders"), ("interface_type", .text "ORDER")]),
        ("rules", .list [.object
          [("name", .text "number"), ("target_field", .text "order_number"),
            ("table_name", .text "order_headers"), ("transformation", .text "none:5")]])]
    ∃ config, ofJson j = .ok config ∧ ∃ rule ∈ config.rules, ∀ c raw,
      Chain.apply c raw rule.transformation =
        .error (.refused ⟨.unknown "none", raw, some "none", none⟩) := by
  intro j
  let rule : Rule :=
    { name := "number", targetField := "order_number", tableName := "order_headers"
      transformation := some "none:5" }
  have hRead : ofJson j = .ok ⟨{ name := "orders", kindTag := "ORDER" }, [rule]⟩ := rfl
  have hSteps : Chain.steps rule.transformation = [⟨"none", some "5"⟩] := by decide +kernel
  refine ⟨_, hRead, rule, List.mem_singleton.mpr rfl, fun c raw => ?_⟩
  rw [Chain.apply, hSteps]
  rfl

end Intake.Config
