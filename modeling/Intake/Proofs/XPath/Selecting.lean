import Intake.Proofs.Path.Selection
import Intake.Proofs.XPath.Forms
import Intake.Proofs.XPath.Order
import Intake.Proofs.Xml.Nesting
import Mathlib.Data.List.Sort

/-! What paths of names select. A step whose test and predicates amount to a comparison of the local
name gives the elements that the outline of the document tells; a step whose qualifier stands for
another namespace gives none. -/

namespace Intake.XPath

open Xml Intake.Path

instance : Std.Irrefl Node.Precedes := ⟨fun _ h => h.2 rfl⟩

instance : Std.Antisymm Node.Precedes :=
  ⟨fun _ _ hab hba => Node.isBefore_antisymm hab.1 hba.1⟩

/-- Rows in ascending order are what putting them in order gives. -/
theorem inOrder_eq_rows {ns : List Node} {is : List Nat} (hOrder : is.Pairwise (· < ·))
    (hMem : ∀ n, n ∈ ns ↔ n ∈ is.map Node.row) : inOrder ns = is.map .row :=
  (inOrder_precedes ns).eq_of_mem_iff (rows_precedes hOrder) fun n => mem_inOrder.trans (hMem n)

section Filter

variable {d : Document} {spaces : Spaces}

/-- A predicate that is a truth about the node keeps the nodes it is true of. -/
theorem filterNodes_truth {predicate : Focus → Except Error Value} {p : Node → Bool}
    (h : ∀ f, predicate f = .ok (.truth (p f.node))) (ns : List Node) :
    filterNodes predicate ns = .ok (ns.filter p) := by
  have hNodes : (focuses ns).map Focus.node = ns := by
    simp only [focuses, List.map_map]
    exact List.zipIdx_map_fst 0 ns
  have hKeeps : (fun f => (predicate f).map (keeps f)) = fun f : Focus => .ok (p f.node) := by
    funext f
    rw [h]
    rfl
  rw [filterNodes, hKeeps, filterM_ok]
  conv_rhs => rw [← hNodes, List.filter_map]
  rfl

theorem lookup_localName :
    Function.all.lookup "local-name" = some (Function.ofNode fun d n => n.localName d) := by
  rfl

theorem localNameIs_eval (name : String) (f : Focus) :
    (localNameIs name).eval d spaces f = .ok (.truth (f.node.localName d == name)) := by
  have hLeft : (Expr.call none "local-name" []).eval d spaces f =
      .ok (.text (f.node.localName d)) := by
    rw [Expr.eval, Expr.evalAll]
    change Function.call d f "local-name" [] = _
    rw [Function.call, lookup_localName]
    rfl
  rw [localNameIs, Expr.eval, hLeft, Expr.eval]
  · change Except.ok (Value.truth ((f.node.localName d == name) == true)) = _
    rw [beq_true]
  · intro hOr
    cases hOr
  · intro hAnd
    cases hAnd

theorem filterNodes_localNameIs (name : String) (ns : List Node) :
    filterNodes (fun g => (localNameIs name).eval d spaces g) ns =
      .ok (ns.filter fun n => n.localName d == name) :=
  filterNodes_truth (p := fun n => n.localName d == name) (localNameIs_eval name) ns

end Filter

section Steps

variable {d : Document} {spaces : Spaces} {f : Focus} {start : Expr} {is : List Nat}

/-- Whether the outline of a document has an element of a local name at a row. -/
def isNamed (d : Document) (name : String) (i : Nat) : Bool :=
  (d.outline[i]?.bind OutlineRow.name?) == some name

/-- The rows that slashes lead to, among those of a predicate. -/
theorem step_eq (is : List Nat) (slash : Slash) (name : String) :
    d.outline.step is slash name = (List.range d.size).filter fun j =>
      isNamed d name j && is.any fun i => d.outline.leads slash i j := by
  simp [Outline.step, Document.outline, isNamed, Document.size]

theorem outline_getElem? (d : Document) {i : Nat} (h : i < d.size) :
    d.outline[i]? = some ⟨(d.kind i).localName?, d.parent i, d.stop i⟩ := by
  rw [Document.outline, List.getElem?_map, d.row_of_lt h]
  rfl

theorem leads_single {i j : Nat} (hj : j < d.size) :
    d.outline.leads .single i j ↔ 0 < j ∧ d.parent j = i := by
  simp [Outline.leads, outline_getElem? d hj, Nat.pos_iff_ne_zero]

theorem leads_double {i j : Nat} : d.outline.leads .double i j ↔ i < j ∧ j < d.stop i := by
  by_cases hi : i < d.size
  · simp [Outline.leads, outline_getElem? d hi]
  · have hNone : d.outline[i]? = none := by
      simpa [Document.outline, Document.size] using hi
    simp [Outline.leads, hNone, Document.stop_of_le (Nat.le_of_not_lt hi)]

/-- The rows that a step takes: those on its axis, seen from one of the rows where it starts, that its
test and its predicates keep. -/
theorem eval_step {axis : Axis} {test : NodeTest} {predicates : List Expr} {t : Test}
    {keep : Nat → Bool} {leads : Nat → Nat → Bool}
    (hStart : start.eval d spaces f = .ok (.nodes (is.map .row)))
    (hTest : test.resolve spaces = .ok t)
    (hAxis : ∀ i, nodesOn d axis (.row i) = (rowsOn d axis i).map .row)
    (hKeep : ∀ js : List Nat, Expr.keepAll d spaces predicates
      ((js.map .row).filter (t.accepts d axis)) = .ok ((js.filter keep).map .row))
    (hLeads : ∀ i ∈ is, ∀ j, j ∈ rowsOn d axis i ↔ j < d.size ∧ leads i j) :
    (Expr.step start axis test predicates).eval d spaces f =
      .ok (.nodes (((List.range d.size).filter fun j =>
        keep j && is.any fun i => leads i j).map .row)) := by
  have hFound : (is.map Node.row).mapM (fun n =>
      Expr.keepAll d spaces predicates ((nodesOn d axis n).filter (t.accepts d axis))) =
      .ok (is.map fun i => ((rowsOn d axis i).filter keep).map .row) := by
    rw [List.mapM_map]
    have hEach : (fun i => Expr.keepAll d spaces predicates
        ((nodesOn d axis (.row i)).filter (t.accepts d axis))) =
        fun i => pure (((rowsOn d axis i).filter keep).map .row) := by
      funext i
      rw [hAxis, hKeep]
      rfl
    exact (congrArg (fun g => is.mapM g) hEach).trans List.mapM_pure
  rw [Expr.eval, hStart]
  change test.resolve spaces >>= _ = _
  rw [hTest]
  change Except.bind _ _ = _
  dsimp only [Except.bind]
  rw [hFound]
  refine congrArg (fun ns => Except.ok (Value.nodes ns)) ?_
  refine inOrder_eq_rows (List.pairwise_lt_range.filter _) fun n => ?_
  simp only [List.mem_flatten, List.mem_map, List.mem_filter, List.mem_range, Bool.and_eq_true,
    List.any_eq_true]
  constructor
  · rintro ⟨_, ⟨i, hi, rfl⟩, hn⟩
    obtain ⟨j, hj, rfl⟩ := List.mem_map.mp hn
    obtain ⟨hOn, hKept⟩ := List.mem_filter.mp hj
    obtain ⟨hSize, hLead⟩ := (hLeads i hi j).mp hOn
    exact ⟨j, ⟨hSize, hKept, i, hi, hLead⟩, rfl⟩
  · rintro ⟨j, ⟨hSize, hKept, i, hi, hLead⟩, rfl⟩
    have hOn := (hLeads i hi j).mpr ⟨hSize, hLead⟩
    exact ⟨_, ⟨i, hi, rfl⟩, List.mem_map.mpr ⟨j, List.mem_filter.mpr ⟨hOn, hKept⟩, rfl⟩⟩

/-- The rows at or below some rows, references left aside. -/
def rowsBelow (d : Document) (is : List Nat) : List Nat :=
  (List.range d.size).filter fun j =>
    Test.node.acceptsRow d j && is.any fun i => i == j || d.outline.leads .double i j

/-- A step to everything at or below rows leaves references aside. -/
theorem eval_anywhere (hStart : start.eval d spaces f = .ok (.nodes (is.map .row)))
    (hRows : ∀ i ∈ is, i < d.size) :
    start.anywhere.eval d spaces f = .ok (.nodes ((rowsBelow d is).map .row)) := by
  refine eval_step hStart rfl (fun _ => rfl) (fun js => ?_) fun i hi j => ?_
  · rw [Expr.keepAll, List.filter_map]
    rfl
  · have hSize := hRows i hi
    simp only [rowsOn, List.mem_cons, Document.mem_descendants, Bool.or_eq_true, beq_iff_eq,
      leads_double]
    constructor
    · rintro (rfl | ⟨hij, hStop⟩)
      · exact ⟨hSize, .inl rfl⟩
      · exact ⟨Document.lt_size_of_lt_stop hStop, .inr ⟨hij, hStop⟩⟩
    · rintro ⟨-, rfl | h⟩
      · exact .inl rfl
      · exact .inr h

/-- What holds other rows is not a reference. -/
theorem acceptsRow_parent (hTree : d.IsTree) {j : Nat} (hPos : 0 < j) (hj : j < d.size) :
    Test.node.acceptsRow d (d.parent j) := by
  rcases hTree.holder hPos hj with hTop | hElement
  · simp [hTop, Test.acceptsRow, Document.kind_zero]
  · obtain ⟨tag, hTag⟩ := Document.isElement_iff.mp hElement
    simp [Test.acceptsRow, hTag]

/-- A child of what is at or below rows is in their content. -/
theorem step_rowsBelow (hTree : d.IsTree) (name : String) :
    d.outline.step (rowsBelow d is) .single name = d.outline.step is .double name := by
  rw [step_eq, step_eq]
  refine List.filter_congr fun j hj => congrArg (isNamed d name j && ·) (Bool.eq_iff_iff.mpr ?_)
  have hj := List.mem_range.mp hj
  simp only [List.any_eq_true, leads_double, leads_single hj, hTree.lt_stop_iff hj, rowsBelow,
    List.mem_filter, List.mem_range, Bool.and_eq_true, Bool.or_eq_true, beq_iff_eq]
  constructor
  · rintro ⟨k, ⟨hk, -, i, hi, hBelow⟩, hPos, rfl⟩
    exact ⟨i, hi, hPos, hBelow.imp Eq.symm id⟩
  · rintro ⟨i, hi, hPos, hBelow⟩
    have hParent := (d.parent_lt hPos hj).1
    exact ⟨d.parent j, ⟨by omega, acceptsRow_parent hTree hPos hj, i, hi, hBelow.imp Eq.symm id⟩,
      hPos, rfl⟩

end Steps

/-- A step of some form keeps the rows that `keep` is true of. -/
def StepForm.KeepsBy (form : StepForm) (d : Document) (spaces : Spaces) (t : NameTest)
    (keep : Nat → Bool) : Prop :=
  ∃ test, (form.test t).resolve spaces = .ok test ∧ ∀ js : List Nat,
    Expr.keepAll d spaces (form.predicates t) ((js.map .row).filter (test.accepts d .child)) =
      .ok ((js.filter keep).map .row)

/-- A step of some form keeps the elements of its local name, or nothing at all. -/
def StepForm.Keeps (form : StepForm) (d : Document) (spaces : Spaces) (t : NameTest)
    (isHit : Bool) : Prop :=
  ∃ test, (form.test t).resolve spaces = .ok test ∧ ∀ js : List Nat,
    Expr.keepAll d spaces (form.predicates t) ((js.map .row).filter (test.accepts d .child)) =
      .ok ((js.filter fun j => isHit && isNamed d t.name.text j).map .row)

/-- A step of some form has an unknown qualifier, or keeps elements. -/
def StepForm.Answers (form : StepForm) (d : Document) (spaces : Spaces) (t : NameTest) : Prop :=
  (∃ e, (form.test t).resolve spaces = .error e) ∨ ∃ isHit, form.Keeps d spaces t isHit

section Names

variable {d : Document} {spaces : Spaces}

theorem isNamed_iff {name : String} {i : Nat} :
    isNamed d name i ↔ ∃ tag, d.kind i = .element tag ∧ tag.name.localName = name := by
  by_cases hi : i < d.size
  · rw [isNamed, outline_getElem? d hi]
    cases d.kind i <;> simp [Kind.localName?]
  · have hNone : d.outline[i]? = none := by
      simpa [Document.outline, Document.size] using hi
    simp [isNamed, hNone, Document.kind_of_le (Nat.le_of_not_lt hi)]

/-- A name with a qualifier keeps the elements of its local name that are in the namespace for which the
qualifier stands. -/
theorem qualifiedForm_keepsBy {t : NameTest} {asked : Option String}
    (hAsked : resolve? spaces (t.qualifier.map PlainName.text) = .ok asked) :
    qualifiedForm.KeepsBy d spaces t (Test.acceptsRow d (.named asked t.name.text)) := by
  refine ⟨.named asked t.name.text, by simp [qualifiedForm, NodeTest.resolve, hAsked, Except.map],
    fun js => ?_⟩
  rw [List.filter_map]
  rfl

/-- That is all of them or none if all elements are in one namespace. -/
theorem qualifiedForm_keeps {t : NameTest} {space asked : Option String}
    (hSpace : ∀ i tag, d.kind i = .element tag → tag.name.space = space)
    (hAsked : resolve? spaces (t.qualifier.map PlainName.text) = .ok asked) :
    qualifiedForm.Keeps d spaces t (space == asked) := by
  have hRow : Test.acceptsRow d (.named asked t.name.text) =
      fun j => space == asked && isNamed d t.name.text j := by
    funext j
    rw [Bool.eq_iff_iff, Bool.and_eq_true, isNamed_iff]
    cases hKind : d.kind j with
    | element tag => simp [Test.acceptsRow, hKind, hSpace j tag hKind, and_comm]
    | _ => simp [Test.acceptsRow, hKind]
  have hKept := qualifiedForm_keepsBy (d := d) hAsked
  rwa [hRow] at hKept

theorem qualifiedForm_answers {space : Option String}
    (hSpace : ∀ i tag, d.kind i = .element tag → tag.name.space = space) (t : NameTest) :
    qualifiedForm.Answers d spaces t := by
  cases hAsked : resolve? spaces (t.qualifier.map PlainName.text) with
  | error e =>
    exact .inl ⟨e, by simp [qualifiedForm, NodeTest.resolve, hAsked, Except.map]⟩
  | ok asked => exact .inr ⟨_, qualifiedForm_keeps hSpace hAsked⟩

theorem localForm_keeps (t : NameTest) : localForm.Keeps d spaces t true := by
  refine ⟨.any none, rfl, fun js => ?_⟩
  have hRow : ∀ j, ((Node.row j).localName d == t.name.text && Test.acceptsRow d (.any none) j) =
      isNamed d t.name.text j := fun j => by
    rw [Bool.eq_iff_iff, Bool.and_eq_true, isNamed_iff]
    cases hKind : d.kind j <;> simp [Test.acceptsRow, hKind, isIn, Node.localName]
  have hKeep : (fun j => (Node.row j).localName d == t.name.text &&
      Test.accepts d (.any none) .child (.row j)) = isNamed d t.name.text := funext hRow
  change Expr.keepAll d spaces [localNameIs t.name.text] _ = _
  rw [Expr.keepAll, filterNodes_localNameIs, List.filter_filter, List.filter_map]
  exact congrArg (fun p => Except.ok ((js.filter p).map Node.row)) hKeep

end Names

section Paths

variable {d : Document} {spaces : Spaces} {f : Focus} {form : StepForm} {start : Expr}
  {is : List Nat}

theorem StepForm.KeepsBy.eval_child {t : NameTest} {keep : Nat → Bool}
    (h : form.KeepsBy d spaces t keep) (hNamed : ∀ j, keep j → isNamed d t.name.text j)
    (hStart : start.eval d spaces f = .ok (.nodes (is.map .row))) :
    (form.stepExpr start t).eval d spaces f =
      .ok (.nodes (((d.outline.step is .single t.name.text).filter keep).map .row)) := by
  obtain ⟨test, hTest, hKeep⟩ := h
  have hLeads : ∀ i ∈ is, ∀ j, j ∈ rowsOn d .child i ↔
      j < d.size ∧ d.outline.leads .single i j := by
    intro i _ j
    rw [rowsOn, Document.mem_children]
    constructor
    · rintro ⟨hPos, hj, hParent⟩
      exact ⟨hj, (leads_single hj).mpr ⟨hPos, hParent⟩⟩
    · rintro ⟨hj, hLead⟩
      obtain ⟨hPos, hParent⟩ := (leads_single hj).mp hLead
      exact ⟨hPos, hj, hParent⟩
  rw [StepForm.stepExpr, eval_step hStart hTest (fun _ => rfl) hKeep hLeads, step_eq,
    List.filter_filter]
  refine congrArg (fun js : List Nat => Except.ok (Value.nodes (js.map .row))) ?_
  refine List.filter_congr fun j _ => ?_
  cases hKept : keep j with
  | false => rfl
  | true => rw [hNamed j hKept, Bool.true_and, Bool.true_and]

/-- One step of a path of names: of the elements of its name to which its slashes lead, it gives those
that its form keeps. -/
theorem StepForm.KeepsBy.eval {t : NameTest} {keep : Nat → Bool}
    (h : form.KeepsBy d spaces t keep) (hNamed : ∀ j, keep j → isNamed d t.name.text j)
    (hTree : d.IsTree) (slash : Slash) (hRows : slash = .double → ∀ i ∈ is, i < d.size)
    (hStart : start.eval d spaces f = .ok (.nodes (is.map .row))) :
    (form.stepExpr (afterSlash start slash) t).eval d spaces f =
      .ok (.nodes (((d.outline.step is slash t.name.text).filter keep).map .row)) := by
  cases slash with
  | single => exact h.eval_child hNamed hStart
  | double =>
    rw [afterSlash, h.eval_child hNamed (eval_anywhere hStart (hRows rfl)), step_rowsBelow hTree]

/-- One step that keeps all elements of its name, or none. -/
theorem StepForm.Keeps.eval {t : NameTest} {isHit : Bool} (h : form.Keeps d spaces t isHit)
    (hTree : d.IsTree) (slash : Slash) (hRows : slash = .double → ∀ i ∈ is, i < d.size)
    (hStart : start.eval d spaces f = .ok (.nodes (is.map .row))) :
    (form.stepExpr (afterSlash start slash) t).eval d spaces f = .ok (.nodes
      ((if isHit then d.outline.step is slash t.name.text else []).map .row)) := by
  have hKept : form.KeepsBy d spaces t fun j => isHit && isNamed d t.name.text j := h
  rw [hKept.eval (fun j hj => (Bool.and_eq_true_iff.mp hj).2) hTree slash hRows hStart]
  cases isHit with
  | false => simp
  | true =>
    have hAll : ∀ j ∈ d.outline.step is slash t.name.text, isNamed d t.name.text j := by
      intro j hj
      rw [step_eq] at hj
      exact (Bool.and_eq_true_iff.mp (List.mem_filter.mp hj).2).1
    simp only [Bool.true_and, if_true, List.filter_eq_self.mpr hAll]

theorem lt_size_of_mem_step {slash : Slash} {name : String} {j : Nat}
    (h : j ∈ d.outline.step is slash name) : j < d.size := by
  rw [step_eq] at h
  exact List.mem_range.mp (List.mem_of_mem_filter h)

theorem isElement_of_mem_step {slash : Slash} {name : String} {j : Nat}
    (h : j ∈ d.outline.step is slash name) : d.isElement j := by
  rw [step_eq] at h
  have hNamed := (Bool.and_eq_true_iff.mp (List.mem_filter.mp h).2).1
  obtain ⟨tag, hTag, -⟩ := isNamed_iff.mp hNamed
  exact Document.isElement_iff.mpr ⟨tag, hTag⟩

/-- What a path of names selects is elements. -/
theorem isElement_of_mem_selection {p : NamePath} {i j : Nat} (h : j ∈ p.selection d.outline i) :
    d.isElement j := by
  have hSteps : ∀ (rest : List (Slash × NameTest)) (is : List Nat), (∀ k ∈ is, d.isElement k) →
      ∀ k ∈ d.outline.steps is rest, d.isElement k := by
    intro rest
    induction rest with
    | nil => exact fun _ hIs => hIs
    | cons next rest ih => exact fun is _ => ih _ fun _ hk => isElement_of_mem_step hk
  exact hSteps p.rest _ (fun _ hk => isElement_of_mem_step hk) j h

/-- All steps behind the first one. -/
theorem eval_tailExpr (hTree : d.IsTree) (hKeeps : ∀ t, form.Keeps d spaces t true)
    (rest : List (Slash × NameTest)) (hRows : ∀ i ∈ is, i < d.size)
    (hStart : start.eval d spaces f = .ok (.nodes (is.map .row))) :
    (form.tailExpr start rest).eval d spaces f = .ok (.nodes ((d.outline.steps is rest).map .row)) := by
  induction rest generalizing start is with
  | nil => exact hStart
  | cons next rest ih =>
    obtain ⟨slash, t⟩ := next
    exact ih (fun _ => lt_size_of_mem_step) ((hKeeps t).eval hTree slash (fun _ => hRows) hStart)

/-- A step fails if its start or its qualifier does. -/
theorem eval_step_failed {axis : Axis} {test : NodeTest} {predicates : List Expr} {e : Error}
    (h : start.eval d spaces f = .error e ∨ test.resolve spaces = .error e) :
    ∃ e', (Expr.step start axis test predicates).eval d spaces f = .error e' := by
  cases hStep : (Expr.step start axis test predicates).eval d spaces f with
  | error e' => exact ⟨e', rfl⟩
  | ok v =>
    rw [Expr.eval, bind_eq_ok] at hStep
    obtain ⟨w, hStart, hStep⟩ := hStep
    obtain ⟨ns, -, hStep⟩ := bind_eq_ok.mp hStep
    obtain ⟨test', hTest, -⟩ := bind_eq_ok.mp hStep
    rw [hStart, hTest] at h
    rcases h with h | h <;> cases h

theorem eval_afterSlash_failed (slash : Slash) {e : Error} (h : start.eval d spaces f = .error e) :
    ∃ e', (afterSlash start slash).eval d spaces f = .error e' := by
  cases slash with
  | single => exact ⟨e, h⟩
  | double => exact eval_step_failed (.inl h)

/-- What is left of some rows if qualifiers are looked up: an error, nothing, or all of them. -/
inductive Reaches (is : List Nat) (x : Except Error Value) : Prop
  | failed (e : Error) : x = .error e → Reaches is x
  | nothing : x = .ok (.nodes []) → Reaches is x
  | all : x = .ok (.nodes (is.map .row)) → Reaches is x

theorem step_nil (slash : Slash) (name : String) : d.outline.step [] slash name = [] := by
  simp [Outline.step]

/-- A step that keeps nothing, or that starts from nothing, leads to nothing. -/
theorem Reaches.step {t : NameTest} (hTree : d.IsTree) (hAnswers : form.Answers d spaces t)
    (slash : Slash) (hRows : slash = .double → ∀ i ∈ is, i < d.size)
    (hStart : Reaches is (start.eval d spaces f)) :
    Reaches (d.outline.step is slash t.name.text)
      ((form.stepExpr (afterSlash start slash) t).eval d spaces f) := by
  rcases hAnswers with ⟨e, hTest⟩ | ⟨isHit, hKeeps⟩
  · obtain ⟨e', hFailed⟩ := eval_step_failed (.inr hTest)
    exact .failed e' hFailed
  · cases hStart with
    | failed e hStart =>
      obtain ⟨e', hStart⟩ := eval_afterSlash_failed slash hStart
      obtain ⟨e'', hFailed⟩ := eval_step_failed (.inl hStart)
      exact .failed e'' hFailed
    | nothing hStart =>
      have hNone : start.eval d spaces f = .ok (.nodes (([] : List Nat).map .row)) := hStart
      have hStep := hKeeps.eval hTree slash (by simp) hNone
      rw [step_nil, ite_self] at hStep
      exact .nothing hStep
    | all hStart =>
      have hStep := hKeeps.eval hTree slash hRows hStart
      cases isHit with
      | false => exact .nothing hStep
      | true => exact .all hStep

theorem Reaches.tailExpr (hTree : d.IsTree) (hAnswers : ∀ t, form.Answers d spaces t)
    (rest : List (Slash × NameTest)) (hRows : ∀ i ∈ is, i < d.size)
    (hStart : Reaches is (start.eval d spaces f)) :
    Reaches (d.outline.steps is rest) ((form.tailExpr start rest).eval d spaces f) := by
  induction rest generalizing start is with
  | nil => exact hStart
  | cons next rest ih =>
    obtain ⟨slash, t⟩ := next
    exact ih (fun _ => lt_size_of_mem_step) (hStart.step hTree (hAnswers t) slash fun _ => hRows)

/-- Where the first step of a path starts, in front of its slashes. -/
def baseExpr : Origin → Expr
  | .here => .context
  | _ => .root

theorem originExpr_eq (o : Origin) : originExpr o = afterSlash (baseExpr o) o.slash := by
  cases o <;> rfl

theorem baseExpr_eval (o : Origin) (i : Nat) :
    (baseExpr o).eval d spaces { node := .row i } = .ok (.nodes ([o.row i].map .row)) := by
  cases o <;> rfl

theorem origin_lt_size {o : Origin} {i : Nat} (h : o.slash = .double) :
    ∀ k ∈ [o.row i], k < d.size := by
  intro k hk
  obtain rfl := List.mem_singleton.mp hk
  cases o with
  | anywhere => exact d.size_pos
  | _ => cases h

/-- A path of names whose steps are compared by local names alone gives what the outline of the
document tells. -/
theorem StepForm.eval_expr (hTree : d.IsTree) (hKeeps : ∀ t, form.Keeps d spaces t true)
    (p : NamePath) (i : Nat) :
    (form.expr p).eval d spaces { node := .row i } =
      .ok (.nodes ((p.selection d.outline i).map .row)) := by
  rw [StepForm.expr, originExpr_eq]
  exact eval_tailExpr hTree hKeeps p.rest (fun _ => lt_size_of_mem_step)
    ((hKeeps p.first).eval hTree p.origin.slash origin_lt_size (baseExpr_eval p.origin i))

/-- Otherwise it gives an error, nothing, or the same. -/
theorem StepForm.reaches_expr (hTree : d.IsTree) (hAnswers : ∀ t, form.Answers d spaces t)
    (p : NamePath) (i : Nat) :
    Reaches (p.selection d.outline i) ((form.expr p).eval d spaces { node := .row i }) := by
  rw [StepForm.expr, originExpr_eq]
  exact Reaches.tailExpr hTree hAnswers p.rest (fun _ => lt_size_of_mem_step)
    (Reaches.step hTree (hAnswers p.first) p.origin.slash origin_lt_size
      (.all (baseExpr_eval p.origin i)))

end Paths

end Intake.XPath
