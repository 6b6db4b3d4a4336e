import Intake.Proofs.XPath.Order
import Intake.Query.Lines

/-! The order of what queries find: elements, and the lines of a document, come in document order,
each once, whichever way they are found. -/

namespace Intake.Query

open Xml XPath

variable {d : Document} {spaces : Spaces} {n : Node}

theorem attempt_inOrder {candidate : String} {v : XPath.Value}
    (h : attempt d spaces n candidate = .ok (.ok v)) : v.InOrder := by
  unfold attempt at h
  split at h
  · cases h
  · split at h
    · obtain ⟨found, hFound, rfl⟩ := map_eq_ok.mp (Except.ok.inj h)
      obtain ⟨e, -, hEval⟩ := bind_eq_ok.mp hFound
      have hOrder : found.InOrder := Expr.eval_inOrder hEval
      cases found with
      | nodes ns => exact hOrder.filter _
      | _ => trivial
    · cases h

theorem search_inOrder {path : String} {candidates : List String} {failed : Option XPath.Error}
    {isEvaluated : Bool} {v : XPath.Value}
    (h : (search d spaces n path failed isEvaluated candidates).value = .ok (some v)) :
    v.InOrder := by
  induction candidates generalizing failed isEvaluated with
  | nil =>
    unfold search at h
    split at h <;> cases h
  | cons candidate rest ih =>
    unfold search at h
    split at h
    · cases h
    · exact ih h
    · rename_i found hAttempt
      split at h
      · have hFound : found = v := by
          split at h <;> cases h <;> rfl
        exact hFound ▸ attempt_inOrder hAttempt
      · exact ih h

theorem find_inOrder {path : String} {v : XPath.Value}
    (h : (find d spaces n path).value = .ok (some v)) : v.InOrder := by
  unfold find at h
  split at h
  · cases h
  · exact search_inOrder h

theorem row_of_elementsAmong {a : Node} {i : Nat}
    (h : (match a with
      | .row i => if d.isElement i then some i else none
      | _ => none) = some i) : a = .row i ∧ d.isElement i := by
  cases a with
  | row j =>
    obtain ⟨hElement, hSame⟩ : d.isElement j ∧ j = i := by simpa using h
    exact ⟨hSame ▸ rfl, hSame ▸ hElement⟩
  | _ => cases h

theorem elementsAmong_pairwise {ns : List Node} (h : ns.Pairwise Node.Precedes) :
    (elementsAmong d ns).Pairwise (· < ·) := by
  rw [elementsAmong, List.pairwise_filterMap]
  refine h.imp fun {a b} hab i hi j hj => ?_
  obtain ⟨rfl, -⟩ := row_of_elementsAmong hi
  obtain ⟨rfl, -⟩ := row_of_elementsAmong hj
  exact Node.row_precedes_row.mp hab

/-- The elements that a path finds come in document order, each once. -/
theorem elements_pairwise {path : String} {is : List Nat}
    (h : (elements d spaces n path).value = .ok is) : is.Pairwise (· < ·) := by
  unfold elements at h
  rw [Logged.value_bind] at h
  split at h
  · cases h
  · cases h
    exact .nil
  · rename_i ns hFound
    cases h
    exact elementsAmong_pairwise (find_inOrder hFound)
  · cases h
    exact .nil

theorem firstPattern_pairwise {patterns : List String} {pattern : String} {nodes : List Nat}
    (h : (firstPattern d spaces n patterns).value = .ok (some (pattern, nodes))) :
    nodes.Pairwise (· < ·) := by
  induction patterns with
  | nil => cases h
  | cons first rest ih =>
    unfold firstPattern at h
    rw [Logged.value_bind] at h
    split at h
    · cases h
    · exact ih h
    · exact ih h
    · rename_i hFound
      cases h
      exact elements_pairwise hFound

theorem repeatingElements_pairwise (d : Document) : (repeatingElements d).Pairwise (· < ·) := by
  unfold repeatingElements
  cases hFound : ((localNames d).map (elementsNamed d)).find? (isRepeating d) with
  | none => exact .nil
  | some is =>
    obtain ⟨name, -, rfl⟩ := List.mem_map.mp (List.mem_of_find?_eq_some hFound)
    exact (XPath.elements_pairwise d).filter _

theorem fallbackLines_pairwise {s : MappingSettings} {parent : String} {found : LineMatch}
    (h : (fallbackLines s d spaces n parent).value = .ok found) :
    found.nodes.Pairwise (· < ·) := by
  unfold fallbackLines at h
  rw [Logged.value_bind] at h
  split at h
  · cases h
  · rename_i hPattern
    cases h
    exact firstPattern_pairwise hPattern
  · have hGuess := repeatingElements_pairwise d
    split at h
    · cases h
      exact .nil
    · rename_i hNodes
      cases h
      rwa [hNodes] at hGuess

theorem findLines_eq (s : MappingSettings) (parent : String) :
    findLines s d spaces n parent =
      (if parent.isEmpty then pure (.ok []) else elements d spaces n parent) >>= fun configured =>
        match configured with
        | .error e => pure (.error e)
        | .ok (first :: rest) => pure (.ok ⟨first :: rest, some .configured, some parent⟩)
        | .ok [] =>
          if s.discoversLines then fallbackLines s d spaces n parent else pure (.ok {}) := by
  by_cases hEmpty : parent.isEmpty <;> simp only [findLines, hEmpty] <;> rfl

/-- Lines come in document order, each once, whichever way they are found. -/
theorem findLines_pairwise {s : MappingSettings} {parent : String} {found : LineMatch}
    (h : (findLines s d spaces n parent).value = .ok found) : found.nodes.Pairwise (· < ·) := by
  rw [findLines_eq, Logged.value_bind] at h
  split at h
  · cases h
  · rename_i first rest hConfigured
    cases h
    split at hConfigured
    · cases hConfigured
    · exact elements_pairwise hConfigured
  · split at h
    · exact fallbackLines_pairwise h
    · cases h
      exact .nil

end Intake.Query
