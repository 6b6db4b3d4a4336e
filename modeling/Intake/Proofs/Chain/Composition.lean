import Intake.Chain.Run
import Intake.Proofs.Results

/-! Chains in sequence. What a chain makes of a text is what its operations make of it one after the
other, provided that none of them strips zeros from a value that has been rendered. So one chain
behind another does what the two do in turn, unless the first renders the value and the second strips
zeros. -/

namespace Intake.Chain

/-- Whether an operation renders the value. -/
def Operation.renders : Operation → Bool
  | dateFormat | timeFormat | dateTimeFormat => true
  | integerFormat | currencyFormat | decimalFormat => true
  | uppercase | lowercase | trim | removeLeadingZeros => false

/-- The operations that steps call, in order. Names that call none are left out. -/
def operationsOf (steps : List Step) : List Operation :=
  steps.filterMap fun step => Operation.ofName? step.name

/-- The operations of a chain, in order. -/
def operations (chain : String) : List Operation := operationsOf (steps (some chain))

/-- Whether operations in a row strip zeros from a rendered value; `isRendered` says whether the
value has been rendered before the first of them. -/
def stripsRendered : Bool → List Operation → Bool
  | _, [] => false
  | isRendered, op :: rest =>
    (isRendered && op == .removeLeadingZeros) || stripsRendered (isRendered || op.renders) rest

/-- What a step makes of a text that has not been rendered, if anything. -/
def Step.text? (c : Context) (text : String) (step : Step) : Option String :=
  (Operation.ofName? step.name).bind fun op =>
    (op.run c ⟨text, none⟩ step.parameter).toOption.map Flow.text

/-- What steps make of a text if each of them takes it as unrendered. -/
def textOf? (c : Context) (text : String) (steps : List Step) : Option String :=
  steps.foldlM (Step.text? c) text

section Guard

variable (isRendered : Bool) (first second : List Operation)

theorem stripsRendered_append :
    stripsRendered isRendered (first ++ second) =
      (stripsRendered isRendered first ||
        stripsRendered (isRendered || first.any Operation.renders) second) := by
  induction first generalizing isRendered with
  | nil => simp [stripsRendered]
  | cons op rest ih => simp [stripsRendered, ih, Bool.or_assoc]

/-- Nothing but the stripping of zeros can damage a rendered value. -/
theorem mem_of_stripsRendered {isRendered : Bool} {ops : List Operation}
    (h : stripsRendered isRendered ops = true) : .removeLeadingZeros ∈ ops := by
  induction ops generalizing isRendered with
  | nil => cases h
  | cons op rest ih =>
    rcases Bool.or_eq_true_iff.mp h with hHere | hRest
    · obtain ⟨-, hOp⟩ := Bool.and_eq_true_iff.mp hHere
      obtain rfl : op = .removeLeadingZeros := by simpa using hOp
      exact List.mem_cons_self
    · exact List.mem_cons_of_mem op (ih hRest)

theorem stripsRendered_of_mem {ops : List Operation} (h : .removeLeadingZeros ∈ ops) :
    stripsRendered true ops = true := by
  induction ops with
  | nil => cases h
  | cons op rest ih =>
    rcases List.mem_cons.mp h with rfl | hRest
    · rfl
    · simp [stripsRendered, ih hRest]

/-- Whether zeros are stripped from a rendered value does not depend on how the value arrives, except
that the operations may not strip zeros if it arrives rendered. -/
theorem stripsRendered_eq_false_iff :
    stripsRendered isRendered second = false ↔
      stripsRendered false second = false ∧
        ¬(isRendered = true ∧ .removeLeadingZeros ∈ second) := by
  cases isRendered with
  | false => simp
  | true =>
    constructor
    · intro h
      have hNot : .removeLeadingZeros ∉ second := fun hMem => by
        rw [stripsRendered_of_mem hMem] at h
        cases h
      exact ⟨Bool.eq_false_iff.mpr fun hStrips => hNot (mem_of_stripsRendered hStrips),
        fun ⟨_, hMem⟩ => hNot hMem⟩
    · rintro ⟨-, hNot⟩
      exact Bool.eq_false_iff.mpr fun hStrips => hNot ⟨rfl, mem_of_stripsRendered hStrips⟩

end Guard

section Operations

variable {c : Context} {op : Operation} {text : String} {parameter : Option String}

theorem renderNumber_rendered {n : Int} {flow : Flow} (h : renderNumber op text n = .ok flow) :
    flow.rendered.isSome := by
  obtain ⟨number, -, h⟩ := bind_eq_ok.mp h
  split at h <;> cases h
  rfl

/-- A value is rendered behind an operation if it was before, or if the operation renders it. -/
theorem Operation.run_rendered {flow flow' : Flow} (h : op.run c flow parameter = .ok flow') :
    flow'.rendered.isSome = (flow.rendered.isSome || op.renders) := by
  cases op with
  | uppercase | lowercase | trim | removeLeadingZeros =>
    cases h
    exact (Bool.or_false _).symm
  | dateFormat | timeFormat | dateTimeFormat =>
    obtain ⟨t, -, h⟩ := bind_eq_ok.mp h
    cases h
    exact (Bool.or_true _).symm
  | integerFormat =>
    rw [renderNumber_rendered h]
    exact (Bool.or_true _).symm
  | currencyFormat | decimalFormat =>
    obtain ⟨n, -, h⟩ := bind_eq_ok.mp h
    rw [renderNumber_rendered h]
    exact (Bool.or_true _).symm

/-- An operation makes the same text of a value whether or not the value has been rendered. -/
theorem Operation.run_text (flow : Flow) :
    (op.run c flow parameter).toOption.map Flow.text =
      (op.run c ⟨flow.text, none⟩ parameter).toOption.map Flow.text := by
  cases op <;> rfl

/-- A step succeeds if the operation that it calls succeeds and does not strip zeros from a rendered
value. -/
theorem Step.run_eq_ok {raw : String} {flow flow' : Flow} {step : Step} :
    step.run c raw flow = .ok flow' ↔
      ∃ op, Operation.ofName? step.name = some op ∧
        (flow.rendered.isSome && op == .removeLeadingZeros) = false ∧
        op.run c flow step.parameter = .ok flow' := by
  unfold Step.run
  cases hName : Operation.ofName? step.name with
  | none => simp
  | some op =>
    obtain ⟨text, _ | rendering⟩ := flow
    · rcases hRun : op.run c ⟨text, none⟩ step.parameter with (_ | _) | _ <;> simp [hRun]
    · by_cases hOp : op = .removeLeadingZeros
      · subst hOp
        simp [Operation.acceptsRendered]
      · have hAccepts : op.acceptsRendered = true := by simpa [Operation.acceptsRendered] using hOp
        rcases hRun : op.run c ⟨text, some rendering⟩ step.parameter with (_ | _) | _ <;>
          simp [hRun, hAccepts, hOp]

/-- A step makes a text of a value if its operation does, whether or not the value has been
rendered. -/
theorem Step.text?_eq_some {flow : Flow} {step : Step} {s : String} :
    step.text? c flow.text = some s ↔
      ∃ op flow', Operation.ofName? step.name = some op ∧
        op.run c flow step.parameter = .ok flow' ∧ flow'.text = s := by
  simp only [Step.text?, ← Operation.run_text flow, Option.bind_eq_some_iff, toOption_map_eq_some,
    exists_and_left]

/-- Steps end with a text exactly if their operations make it of the text that they are given, and
none of them strips zeros from a rendered value. -/
theorem run_eq_text {raw t : String} {steps : List Step} {flow : Flow} :
    (∃ flow', steps.foldlM (Step.run c raw) flow = .ok flow' ∧ flow'.text = t) ↔
      textOf? c flow.text steps = some t ∧
        stripsRendered flow.rendered.isSome (operationsOf steps) = false := by
  -- The text of a flow and whether it is rendered are all that the rest of the chain depends on.
  induction steps generalizing flow with
  | nil => simp [textOf?, operationsOf, stripsRendered, pure, Except.pure]
  | cons step rest ih =>
    have hOps : ∀ op, Operation.ofName? step.name = some op →
        operationsOf (step :: rest) = op :: operationsOf rest :=
      fun op hOp => List.filterMap_cons_some hOp
    simp only [List.foldlM_cons, bind_eq_ok]
    constructor
    · rintro ⟨last, ⟨next, hNext, hRest⟩, hText⟩
      obtain ⟨op, hOp, hFree, hRun⟩ := Step.run_eq_ok.mp hNext
      obtain ⟨hTextOf, hStrips⟩ := ih.mp ⟨last, hRest, hText⟩
      refine ⟨Option.bind_eq_some_iff.mpr ⟨next.text, ?_, hTextOf⟩, ?_⟩
      · exact Step.text?_eq_some.mpr ⟨op, next, hOp, hRun, rfl⟩
      · rw [hOps op hOp, stripsRendered, hFree, ← Operation.run_rendered hRun, hStrips]
        rfl
    · rintro ⟨hTextOf, hStrips⟩
      obtain ⟨text, hStep, hTextOf⟩ := Option.bind_eq_some_iff.mp hTextOf
      obtain ⟨op, next, hOp, hRun, rfl⟩ := Step.text?_eq_some.mp hStep
      rw [hOps op hOp, stripsRendered, ← Operation.run_rendered hRun] at hStrips
      obtain ⟨hFree, hStrips⟩ := Bool.or_eq_false_iff.mp hStrips
      obtain ⟨last, hRest, hText⟩ := ih.mpr ⟨hTextOf, hStrips⟩
      exact ⟨last, ⟨next, Step.run_eq_ok.mpr ⟨op, hOp, hFree, hRun⟩, hRest⟩, hText⟩

end Operations

section Chains

variable {c : Context} {raw t : String}

/-- A chain ends with a text exactly if its operations make it of the raw text, and none of them
strips zeros from a rendered value. -/
theorem apply_eq_ok {chain : String} :
    apply c raw (some chain) = .ok t ↔
      textOf? c raw (steps (some chain)) = some t ∧
        stripsRendered false (operations chain) = false := by
  rw [apply, map_eq_ok]
  exact run_eq_text

/-- The steps of one chain behind another are those of both. -/
theorem steps_append (first second : String) :
    steps (some (first ++ "|" ++ second)) = steps (some first) ++ steps (some second) := by
  simp [steps, stepsOf, Text.pieces_append]

example : operations " Trim|none| decimal:2 |NULL|Remove_Leading_Zeros" =
    [.trim, .decimalFormat, .removeLeadingZeros] := by decide +kernel

theorem operations_append (first second : String) :
    operations (first ++ "|" ++ second) = operations first ++ operations second := by
  rw [operations, steps_append, operationsOf, List.filterMap_append]
  rfl

/-- Steps behind others work on the text that those end with. -/
theorem textOf?_append (text : String) (first second : List Step) :
    textOf? c text (first ++ second) =
      (textOf? c text first).bind fun s => textOf? c s second :=
  List.foldlM_append

/-- One chain behind another ends with a text exactly if the first chain makes something of the raw
text of which the second makes that text, unless the first one renders the value and the second one
strips zeros. No chain that strips zeros anywhere behind an operation that renders the value ends with
a text. -/
theorem apply_append (c : Context) (raw : String) :
    (∀ first second t,
      apply c raw (some (first ++ "|" ++ second)) = .ok t ↔
        (∃ s, apply c raw (some first) = .ok s ∧ apply c s (some second) = .ok t) ∧
          ¬((∃ op ∈ operations first, op.renders) ∧
            .removeLeadingZeros ∈ operations second)) ∧
      ∀ chain before op after, operations chain = before ++ op :: after → op.renders →
        .removeLeadingZeros ∈ after → ∀ t, apply c raw (some chain) ≠ .ok t := by
  constructor
  · intro first second t
    have hRenders : (operations first).any Operation.renders = true ↔
        ∃ op ∈ operations first, op.renders := List.any_eq_true
    rw [apply_eq_ok, operations_append, stripsRendered_append, Bool.or_eq_false_iff,
      Bool.false_or, stripsRendered_eq_false_iff (List.any _ _), steps_append,
      textOf?_append, Option.bind_eq_some_iff, hRenders]
    simp only [apply_eq_ok]
    constructor
    · rintro ⟨⟨s, hFirst, hSecond⟩, hFree, hFree', hNot⟩
      exact ⟨⟨s, ⟨hFirst, hFree⟩, hSecond, hFree'⟩, hNot⟩
    · rintro ⟨⟨s, ⟨hFirst, hFree⟩, hSecond, hFree'⟩, hNot⟩
      exact ⟨⟨s, hFirst, hSecond⟩, hFree, hFree', hNot⟩
  · intro chain before op after hChain hOp hStrips t h
    obtain ⟨-, hFree⟩ := apply_eq_ok.mp h
    rw [hChain, stripsRendered_append, Bool.or_eq_false_iff, stripsRendered, hOp, Bool.or_true,
      Bool.or_eq_false_iff, stripsRendered_of_mem hStrips] at hFree
    exact Bool.noConfusion hFree.2.2

/-- Zeros are stripped from what was received, and not from what was rendered. -/
theorem apply_append_leadingZeros :
    let c : Context := ⟨{}, default⟩
    apply c "00123.450" (some "remove_leading_zeros|decimal_format") = .ok "123.450" ∧
      ∀ t, apply c "00123.450" (some "decimal_format|trim|remove_leading_zeros") ≠ .ok t := by
  intro c
  constructor
  · have hFirst : apply c "00123.450" (some "remove_leading_zeros") = .ok "123.450" :=
      apply_eq_ok.mpr (by decide +kernel)
    have hSecond : apply c "123.450" (some "decimal_format") = .ok "123.450" :=
      apply_eq_ok.mpr (by decide +kernel)
    exact ((apply_append c "00123.450").1 "remove_leading_zeros" "decimal_format" "123.450").mpr
      ⟨⟨"123.450", hFirst, hSecond⟩, by decide +kernel⟩
  · exact (apply_append c "00123.450").2 _ [] .decimalFormat [.trim, .removeLeadingZeros]
      (by decide +kernel) rfl (by decide)

end Chains

end Intake.Chain
