import Intake.Proofs.Results
import Intake.XPath.Evaluation

/-! The order of the nodes that expressions select: whatever an expression is, the nodes that it
gives come in document order, each once. -/

namespace Intake.XPath

open Xml

namespace Node

/-- A node comes before another one. -/
def Precedes (a b : Node) : Prop := a.isBefore b ∧ a ≠ b

theorem isBefore_iff {a b : Node} :
    a.isBefore b ↔ a.key.1 < b.key.1 ∨ a.key.1 = b.key.1 ∧
      (a.key.2.1 < b.key.2.1 ∨ a.key.2.1 = b.key.2.1 ∧ a.key.2.2 ≤ b.key.2.2) := by
  simp only [isBefore, Bool.or_eq_true, Bool.and_eq_true, decide_eq_true_eq, beq_iff_eq]

theorem key_injective {a b : Node} (h : a.key = b.key) : a = b := by
  cases a <;> cases b <;> simp_all [key]

theorem isBefore_trans (a b c : Node) (hab : a.isBefore b) (hbc : b.isBefore c) :
    a.isBefore c := by
  rw [isBefore_iff] at *
  omega

theorem isBefore_total (a b : Node) : a.isBefore b || b.isBefore a := by
  rw [Bool.or_eq_true, isBefore_iff, isBefore_iff]
  omega

theorem isBefore_antisymm {a b : Node} (hab : a.isBefore b) (hba : b.isBefore a) : a = b := by
  rw [isBefore_iff] at hab hba
  have h1 : a.key.1 = b.key.1 := by omega
  have h2 : a.key.2.1 = b.key.2.1 := by omega
  have h3 : a.key.2.2 = b.key.2.2 := by omega
  exact key_injective (Prod.ext h1 (Prod.ext h2 h3))

theorem Precedes.of_isBefore {a b c : Node} (hab : a.Precedes b) (hbc : b.isBefore c) :
    a.Precedes c := by
  refine ⟨isBefore_trans a b c hab.1 hbc, ?_⟩
  rintro rfl
  exact hab.2 (isBefore_antisymm hab.1 hbc)

@[simp] theorem row_precedes_row {i j : Nat} : (row i).Precedes (row j) ↔ i < j := by
  simp only [Precedes, isBefore_iff, key, ne_eq, row.injEq]
  omega

end Node

theorem mem_withoutRepeats {n : Node} {nodes : List Node} :
    n ∈ withoutRepeats nodes ↔ n ∈ nodes := by
  fun_induction withoutRepeats nodes with
  | case1 a rest ih => simp [ih]
  | case2 a b rest hab ih => simp [ih]
  | case3 nodes => rfl

/-- Of nodes in order each is kept once. -/
theorem withoutRepeats_precedes {nodes : List Node}
    (h : nodes.Pairwise fun a b => a.isBefore b) :
    (withoutRepeats nodes).Pairwise Node.Precedes := by
  fun_induction withoutRepeats nodes with
  | case1 a rest ih => exact ih h.of_cons
  | case2 a b rest hab ih =>
    refine List.pairwise_cons.mpr ⟨fun c hc => ?_, ih h.of_cons⟩
    have hFirst : a.Precedes b := ⟨List.rel_of_pairwise_cons h (by simp), hab⟩
    rcases List.mem_cons.mp (mem_withoutRepeats.mp hc) with rfl | hc
    · exact hFirst
    · exact hFirst.of_isBefore (List.rel_of_pairwise_cons h.of_cons hc)
  | case3 nodes hShort =>
    match nodes with
    | [] => exact .nil
    | [a] => exact List.pairwise_singleton _ _
    | a :: b :: rest => exact (hShort a b rest rfl).elim

theorem mem_inOrder {n : Node} {nodes : List Node} : n ∈ inOrder nodes ↔ n ∈ nodes := by
  rw [inOrder, mem_withoutRepeats, List.mem_mergeSort]

theorem inOrder_precedes (nodes : List Node) : (inOrder nodes).Pairwise Node.Precedes :=
  withoutRepeats_precedes (List.pairwise_mergeSort Node.isBefore_trans Node.isBefore_total nodes)

/-- The nodes of a value, if it has any, come in document order. -/
def Value.InOrder : Value → Prop
  | .nodes ns => ns.Pairwise Node.Precedes
  | _ => True

theorem Value.InOrder.of_toNodes {v : Value} (h : v.InOrder) {ns : List Node}
    (hNodes : v.toNodes = .ok ns) : ns.Pairwise Node.Precedes := by
  cases v with
  | nodes ms =>
    cases hNodes
    exact h
  | _ => cases hNodes

theorem rows_precedes {is : List Nat} (h : is.Pairwise (· < ·)) :
    (is.map Node.row).Pairwise Node.Precedes := by
  rw [List.pairwise_map]
  exact h.imp fun hLt => Node.row_precedes_row.mpr hLt

theorem elements_pairwise (d : Document) : d.elements.Pairwise (· < ·) :=
  List.pairwise_lt_range.filter _

namespace Function

/-- A function whose values have their nodes in document order. -/
def KeepsOrder (fn : Function) : Prop :=
  ∀ d f vs v, fn.run d f vs = .ok v → v.InOrder

theorem identified_precedes (d : Document) (s : String) :
    (identified d s).Pairwise Node.Precedes :=
  rows_precedes ((elements_pairwise d).filter _)

variable {f : String → Value} {g : String → String → Value}

theorem ofTexts_keepsOrder (h : ∀ s t, (g s t).InOrder) : (ofTexts g).KeepsOrder := by
  intro d focus vs v hRun
  rcases vs with _ | ⟨a, _ | ⟨b, vs⟩⟩ <;> cases hRun
  exact h _ _

theorem ofNumber_keepsOrder (f : Number.Double → Number.Double) : (ofNumber f).KeepsOrder := by
  intro d focus vs v hRun
  rcases vs with _ | ⟨a, vs⟩ <;> cases hRun
  trivial

theorem ofTruth_keepsOrder (f : Bool → Bool) : (ofTruth f).KeepsOrder := by
  intro d focus vs v hRun
  rcases vs with _ | ⟨a, vs⟩ <;> cases hRun
  trivial

theorem ofNodes_keepsOrder {f : Document → List Node → Value} (h : ∀ d ns, (f d ns).InOrder) :
    (ofNodes f).KeepsOrder := by
  intro d focus vs v hRun
  rcases vs with _ | ⟨a, vs⟩
  · cases hRun
  · cases a with
    | nodes ns =>
      cases hRun
      exact h d ns
    | _ => cases hRun

theorem ofNode_keepsOrder (f : Document → Node → String) : (ofNode f).KeepsOrder := by
  intro d focus vs v hRun
  obtain ⟨n, -, rfl⟩ := map_eq_ok.mp hRun
  trivial

theorem ofTextOr_keepsOrder (h : ∀ s, (f s).InOrder) : (ofTextOr f).KeepsOrder := by
  intro d focus vs v hRun
  cases hRun
  exact h _

theorem ofFocus_keepsOrder {f : Focus → Value} (h : ∀ focus, (f focus).InOrder) :
    (ofFocus f).KeepsOrder := by
  intro d focus vs v hRun
  cases hRun
  exact h _

/-- All functions keep nodes in order; the one that looks for identifiers puts them in order. -/
theorem all_keepsOrder : ∀ entry ∈ all, entry.2.KeepsOrder := by
  simp only [all, List.forall_mem_cons, List.not_mem_nil, false_implies, implies_true, and_true]
  refine ⟨ofFocus_keepsOrder fun _ => trivial, ofFocus_keepsOrder fun _ => trivial,
    ofNodes_keepsOrder fun _ _ => trivial, ?ident,
    ofNode_keepsOrder _, ofNode_keepsOrder _, ofNode_keepsOrder _,
    ofTextOr_keepsOrder fun _ => trivial, ?_, ofTexts_keepsOrder fun _ _ => trivial,
    ofTexts_keepsOrder fun _ _ => trivial, ofTexts_keepsOrder fun _ _ => trivial,
    ofTexts_keepsOrder fun _ _ => trivial, ?_, ofTextOr_keepsOrder fun _ => trivial,
    ofTextOr_keepsOrder fun _ => trivial, ?_, ofTruth_keepsOrder _, ofTruth_keepsOrder _,
    ofFocus_keepsOrder fun _ => trivial, ofFocus_keepsOrder fun _ => trivial, ?_, ?_,
    ofNodes_keepsOrder fun _ _ => trivial, ofNumber_keepsOrder _, ofNumber_keepsOrder _,
    ofNumber_keepsOrder _⟩
  case ident =>
    intro d f vs v h
    simp only at h
    split at h
    · cases h
      exact inOrder_precedes _
    · cases h
      exact identified_precedes d _
    · cases h
  all_goals
    intro d f vs v h
    simp only at h
    try split at h
    all_goals cases h
    all_goals trivial

theorem call_inOrder {d : Document} {f : Focus} {name : String} {vs : List Value} {v : Value}
    (h : call d f name vs = .ok v) : v.InOrder := by
  unfold call at h
  split at h
  · cases h
  · rename_i fn hFn
    obtain ⟨-, h⟩ := ite_error_eq_ok.mp h
    exact all_keepsOrder _ (mem_of_lookup hFn) d f vs v h

end Function

theorem Operator.run_inOrder {d : Document} {op : Operator} {a b v : Value}
    (h : op.run d a b = .ok v) : v.InOrder := by
  cases op with
  | union =>
    obtain ⟨ns, -, h⟩ := bind_eq_ok.mp h
    obtain ⟨ms, -, h⟩ := bind_eq_ok.mp h
    cases h
    exact inOrder_precedes _
  | _ =>
    cases h
    trivial

theorem filterNodes_sublist {predicate : Focus → Except Error Value} {ns kept : List Node}
    (h : filterNodes predicate ns = .ok kept) : kept.Sublist ns := by
  obtain ⟨focuses', hKept, h⟩ := bind_eq_ok.mp h
  cases h
  have hAll : (focuses ns).map Focus.node = ns := by
    simp only [focuses, List.map_map]
    exact List.zipIdx_map_fst 0 ns
  rw [← hAll]
  exact (sublist_of_filterM hKept).map _

theorem Expr.eval_logic {d : Document} {spaces : Spaces} {op : Operator} {a b : Expr} {f : Focus}
    {v : Value} (hLogic : op = .or ∨ op = .and)
    (h : (Expr.binary op a b).eval d spaces f = .ok v) : ∃ t, v = .truth t := by
  rcases hLogic with rfl | rfl
  all_goals
    rw [eval] at h
    obtain ⟨x, -, h⟩ := bind_eq_ok.mp h
    split at h
    · cases h
      exact ⟨_, rfl⟩
    · obtain ⟨y, -, h⟩ := bind_eq_ok.mp h
      cases h
      exact ⟨_, rfl⟩

/-- Whatever an expression is, its nodes come in document order. -/
theorem Expr.eval_inOrder {d : Document} {spaces : Spaces} :
    ∀ {e : Expr} {f : Focus} {v : Value}, e.eval d spaces f = .ok v → v.InOrder
  | .root, f, v, h | .context, f, v, h => by
    cases h
    exact List.pairwise_singleton _ _
  | .number x, f, v, h | .literal s, f, v, h => by
    cases h
    trivial
  | .variable q name, f, v, h => by
    rw [eval] at h
    obtain ⟨space, -, h⟩ := bind_eq_ok.mp h
    cases h
  | .numeric e, f, v, h | .negated e, f, v, h => by
    rw [eval] at h
    obtain ⟨x, -, h⟩ := bind_eq_ok.mp h
    cases h
    trivial
  | .binary op a b, f, v, h => by
    by_cases hLogic : op = .or ∨ op = .and
    · obtain ⟨t, rfl⟩ := eval_logic hLogic h
      trivial
    · rw [eval] at h
      · obtain ⟨x, -, h⟩ := bind_eq_ok.mp h
        obtain ⟨y, -, h⟩ := bind_eq_ok.mp h
        exact Operator.run_inOrder h
      · exact fun hOr => hLogic (.inl hOr)
      · exact fun hAnd => hLogic (.inr hAnd)
  | .filtered e predicate, f, v, h => by
    rw [eval] at h
    obtain ⟨x, hx, h⟩ := bind_eq_ok.mp h
    obtain ⟨ns, hns, h⟩ := bind_eq_ok.mp h
    obtain ⟨kept, hKept, h⟩ := bind_eq_ok.mp h
    cases h
    exact ((eval_inOrder hx).of_toNodes hns).sublist (filterNodes_sublist hKept)
  | .step start axis test predicates, f, v, h => by
    rw [eval] at h
    obtain ⟨x, -, h⟩ := bind_eq_ok.mp h
    obtain ⟨ns, -, h⟩ := bind_eq_ok.mp h
    obtain ⟨test', -, h⟩ := bind_eq_ok.mp h
    obtain ⟨found, -, h⟩ := bind_eq_ok.mp h
    cases h
    exact inOrder_precedes _
  | .call q name arguments, f, v, h => by
    rw [eval] at h
    obtain ⟨vs, -, h⟩ := bind_eq_ok.mp h
    obtain ⟨space, -, h⟩ := bind_eq_ok.mp h
    cases space with
    | none => exact Function.call_inOrder h
    | some space => cases h

end Intake.XPath
