import Intake.Proofs.XPath.Selecting

/-! What paths of names find in a document whose elements are in several namespaces. A qualifier lets
through some of the elements of a local name, so whatever the qualifiers of a path stand for, it finds
nothing but elements that its steps select by their local names alone. -/

namespace Intake.XPath

open Xml Intake.Path

variable {d : Document} {spaces : Spaces} {f : Focus} {form : StepForm} {start : Expr}
  {is : List Nat}

/-- A step of some form has an unknown qualifier, or keeps some elements of its local name. -/
def StepForm.Narrows (form : StepForm) (d : Document) (spaces : Spaces) (t : NameTest) : Prop :=
  (∃ e, (form.test t).resolve spaces = .error e) ∨
    ∃ keep, form.KeepsBy d spaces t keep ∧ ∀ j, keep j → isNamed d t.name.text j

theorem qualifiedForm_narrows (t : NameTest) : qualifiedForm.Narrows d spaces t := by
  cases hAsked : resolve? spaces (t.qualifier.map PlainName.text) with
  | error e =>
    exact .inl ⟨e, by simp [qualifiedForm, NodeTest.resolve, hAsked, Except.map]⟩
  | ok asked =>
    refine .inr ⟨_, qualifiedForm_keepsBy hAsked, fun j hj => ?_⟩
    rw [isNamed_iff]
    cases hKind : d.kind j with
    | element tag =>
      obtain ⟨hName, -⟩ : tag.name.localName = t.name.text ∧ tag.name.space = asked := by
        simpa [Test.acceptsRow, hKind] using hj
      exact ⟨tag, rfl, hName⟩
    | _ => simp [Test.acceptsRow, hKind] at hj

/-- What qualifiers leave of some rows: an error, or some of them. -/
inductive Within (is : List Nat) (x : Except Error Value) : Prop
  | failed (e : Error) : x = .error e → Within is x
  | some (js : List Nat) : (∀ j ∈ js, j ∈ is) → x = .ok (.nodes (js.map .row)) → Within is x

theorem step_mono {js : List Nat} (h : ∀ j ∈ js, j ∈ is) (slash : Slash) (name : String) {k : Nat}
    (hk : k ∈ d.outline.step js slash name) : k ∈ d.outline.step is slash name := by
  simp only [step_eq, List.mem_filter, Bool.and_eq_true, List.any_eq_true] at hk ⊢
  obtain ⟨hSize, hNamed, j, hj, hLeads⟩ := hk
  exact ⟨hSize, hNamed, j, h j hj, hLeads⟩

/-- One step from some of the rows finds some of the elements to which it leads from all of them. -/
theorem Within.step {t : NameTest} (hTree : d.IsTree) (hNarrows : form.Narrows d spaces t)
    (slash : Slash) (hRows : slash = .double → ∀ i ∈ is, i < d.size)
    (hStart : Within is (start.eval d spaces f)) :
    Within (d.outline.step is slash t.name.text)
      ((form.stepExpr (afterSlash start slash) t).eval d spaces f) := by
  rcases hNarrows with ⟨e, hTest⟩ | ⟨keep, hKeeps, hNamed⟩
  · obtain ⟨e', hFailed⟩ := eval_step_failed (.inr hTest)
    exact .failed e' hFailed
  · cases hStart with
    | failed e hStart =>
      obtain ⟨e', hStart⟩ := eval_afterSlash_failed slash hStart
      obtain ⟨e'', hFailed⟩ := eval_step_failed (.inl hStart)
      exact .failed e'' hFailed
    | some js hSome hStart =>
      have hStep := hKeeps.eval hNamed hTree slash (fun h j hj => hRows h j (hSome j hj)) hStart
      refine .some _ (fun k hk => ?_) hStep
      exact step_mono hSome slash t.name.text (List.mem_filter.mp hk).1

theorem Within.tailExpr (hTree : d.IsTree) (hNarrows : ∀ t, form.Narrows d spaces t)
    (rest : List (Slash × NameTest)) (hRows : ∀ i ∈ is, i < d.size)
    (hStart : Within is (start.eval d spaces f)) :
    Within (d.outline.steps is rest) ((form.tailExpr start rest).eval d spaces f) := by
  induction rest generalizing start is with
  | nil => exact hStart
  | cons next rest ih =>
    obtain ⟨slash, t⟩ := next
    exact ih (fun _ => lt_size_of_mem_step) (hStart.step hTree (hNarrows t) slash fun _ => hRows)

/-- A path of names gives an error, or some of the elements that it selects by local names. -/
theorem StepForm.within_expr (hTree : d.IsTree) (hNarrows : ∀ t, form.Narrows d spaces t)
    (p : NamePath) (i : Nat) :
    Within (p.selection d.outline i) ((form.expr p).eval d spaces { node := .row i }) := by
  rw [StepForm.expr, originExpr_eq]
  exact Within.tailExpr hTree hNarrows p.rest (fun _ => lt_size_of_mem_step)
    (Within.step hTree (hNarrows p.first) p.origin.slash origin_lt_size
      (.some [p.origin.row i] (fun _ hj => hj) (baseExpr_eval p.origin i)))

end Intake.XPath
