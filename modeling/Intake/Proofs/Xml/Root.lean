import Intake.Proofs.Xml.Declared
import Intake.XPath.Node

/-! The outermost element of a document. It is the only element that stands in none, and all elements
stand in it, whatever comments and instructions are around it. It is reached from every node: by
climbing up to the document, and from there to the element below. -/

namespace Intake.Xml

theorem Content.rowsOf_append (parent start : Nat) (before behind : List Content) :
    Content.rowsOf parent start (before ++ behind) =
      Content.rowsOf parent start before ++
        Content.rowsOf parent (start + (Content.rowsOf parent start before).length) behind := by
  induction before generalizing start with
  | nil => rfl
  | cons c rest ih =>
    rw [List.cons_append, Content.rowsOf, Content.rowsOf, ih, List.append_assoc, List.length_append,
      ← Nat.add_assoc]

namespace Document

/-- The root of a document is the one element that stands in no other, and all elements stand in
it. -/
structure HasRoot (d : Document) : Prop where
  isElement : d.isElement d.root
  parent : d.parent d.root = 0
  within : ∀ {i}, d.isElement i → d.root ≤ i ∧ i < d.stop d.root

/-- Rows of content without tags are not elements. -/
theorem not_isElement_of_mem {parent start : Nat} {cs : List Content} {r : Row} {tag : Tag}
    (hTags : ∀ c ∈ cs, c.tags = []) (hRow : r ∈ Content.rowsOf parent start cs) :
    r.kind ≠ .element tag := by
  intro hKind
  obtain ⟨c, hc, hTag⟩ := mem_tagsOf.mp (Content.mem_tagsOf_of_rows hRow hKind)
  rw [hTags c hc] at hTag
  cases hTag

theorem hasRoot_ofParts {P : Tag → Prop} {p : Parts} (h : p.Holds P) : (ofParts p).HasRoot := by
  let before := Content.rowsOf 0 1 p.before
  let inner := Content.rowsOf (1 + before.length) (1 + before.length + 1) p.children
  let root : Row := ⟨.element p.tag, 0, 1 + before.length + 1 + inner.length⟩
  let behind := Content.rowsOf 0 (1 + before.length + (root :: inner).length) p.behind
  obtain ⟨first, hRows⟩ : ∃ first : Row,
      (ofParts p).rows.toList = first :: (before ++ (root :: inner ++ behind)) := by
    have hInner : Content.rowsOf 0 1 (p.before ++ .element p.tag p.children :: p.behind) =
        before ++ (root :: inner ++ behind) := by
      rw [Content.rowsOf_append, Content.rowsOf, Content.rows]
    exact ⟨_, congrArg (List.cons _) hInner⟩
  have hRoot : (ofParts p).row (ofParts p).root = root := by
    apply row_eq_of_getElem?
    show (ofParts p).rows.toList[1 + before.length]? = some root
    rw [hRows, Nat.add_comm, List.getElem?_cons_succ, List.getElem?_append_right (Nat.le_refl _)]
    simp
  refine ⟨?_, ?_, ?_⟩
  · simp [isElement, tag?, kind, hRoot, root]
  · rw [Document.parent, hRoot]
  · intro i hi
    obtain ⟨tag, hTag⟩ := isElement_iff.mp hi
    have hRow := (ofParts p).row_of_lt (lt_size_of_kind hTag)
    rw [stop, hRoot]
    show 1 + before.length ≤ i ∧ i < 1 + before.length + 1 + inner.length
    rw [hRows] at hRow
    cases i with
    | zero =>
      rw [kind_zero] at hTag
      cases hTag
    | succ i =>
      rw [List.getElem?_cons_succ] at hRow
      -- A row in front of the root, or behind its content, is no element.
      have hBefore : before.length ≤ i := by
        refine Nat.le_of_not_lt fun hLow => ?_
        rw [List.getElem?_append_left hLow] at hRow
        exact not_isElement_of_mem h.before (List.mem_of_getElem? hRow) hTag
      rw [List.getElem?_append_right hBefore] at hRow
      have hBehind : i - before.length < (root :: inner).length := by
        refine Nat.lt_of_not_le fun hHigh => ?_
        rw [List.getElem?_append_right hHigh] at hRow
        exact not_isElement_of_mem h.behind (List.mem_of_getElem? hRow) hTag
      rw [List.length_cons] at hBehind
      omega

theorem ofBytes?_hasRoot {bytes : List UInt8} {d : Document} (h : ofBytes? bytes = some d) :
    d.HasRoot := by
  obtain ⟨s, p, hParts, rfl⟩ := ofBytes?_eq_some h
  have hYields : ∀ r : ReadingRules, r.Yields fun _ => True := fun _ _ _ _ _ _ _ _ _ _ _ => trivial
  exact hasRoot_ofParts (Parts.read?_holds (fun _ _ => hYields _) hParts)

/-- The row at which climbing from a row ends. -/
def top (d : Document) (i : Nat) : Nat := (d.ancestors i).getLastD i

/-- The element below the row at which climbing ends. -/
def outermost? (d : Document) (i : Nat) : Option Nat := (d.children (d.top i)).find? d.isElement

/-- An element and those in it, in document order. -/
def elementsIn (d : Document) (i : Nat) : List Nat := (i :: d.descendants i).filter d.isElement

/-- All elements that are reached from a row: those of the outermost element of its document. -/
def elementsFrom (d : Document) (i : Nat) : List Nat :=
  ((d.outermost? i).map d.elementsIn).getD []

section Reaching

variable {d : Document} {i j : Nat}

theorem lt_of_mem_ancestors {k : Nat} (h : k ∈ d.ancestors i) : k < i := by
  induction i using Nat.strongRecOn with
  | _ i ih =>
    rw [ancestors] at h
    split at h
    · next hInside =>
      have hLow := (d.parent_lt hInside.1 hInside.2).1
      rcases List.mem_cons.mp h with rfl | hAbove
      · exact hLow
      · exact Nat.lt_trans (ih (d.parent i) hLow hAbove) hLow
    · cases h

/-- Climbing from a row ends at the document. -/
theorem top_eq_zero (h : i < d.size) : d.top i = 0 := by
  induction i using Nat.strongRecOn with
  | _ i ih =>
    unfold top
    rw [ancestors]
    split
    · next hInside =>
      have hLow := (d.parent_lt hInside.1 hInside.2).1
      rw [List.getLastD_cons]
      exact ih (d.parent i) hLow (by omega)
    · next hOutside =>
      have hZero : i = 0 := by omega
      rw [hZero]
      rfl

theorem HasRoot.eq_root (h : d.HasRoot) (hTree : d.IsTree) (hi : d.isElement i)
    (hParent : d.parent i = 0) : i = d.root := by
  obtain ⟨hLow, hHigh⟩ := h.within hi
  have hPos := pos_of_isElement h.isElement
  refine (Nat.eq_or_lt_of_le hLow).elim Eq.symm fun hLt => ?_
  have hAbove := hTree.within (lt_size_of_isElement hi) hLt hHigh
  omega

theorem outermost?_eq_root (h : d.HasRoot) (hTree : d.IsTree) (hi : i < d.size) :
    d.outermost? i = some d.root := by
  rw [outermost?, top_eq_zero hi]
  have hChild : d.root ∈ d.children 0 :=
    mem_children.mpr ⟨pos_of_isElement h.isElement, lt_size_of_isElement h.isElement, h.parent⟩
  obtain ⟨j, hj⟩ := Option.isSome_iff_exists.mp
    (List.find?_isSome.mpr ⟨d.root, hChild, h.isElement⟩)
  have hParent := (mem_children.mp (List.mem_of_find?_eq_some hj)).2.2
  rw [hj, h.eq_root hTree (List.find?_some hj) hParent]

/-- All elements stand in the root. -/
theorem HasRoot.elementsIn_root (h : d.HasRoot) : d.elementsIn d.root = d.elements := by
  obtain ⟨hLow, hHigh⟩ := d.lt_stop (lt_size_of_isElement h.isElement)
  have hRows : d.root :: d.descendants d.root =
      List.range' d.root (d.stop d.root - d.root) := by
    rw [show d.stop d.root - d.root = d.stop d.root - (d.root + 1) + 1 by omega, List.range'_succ]
    rfl
  have hAll : List.range d.size = List.range' 0 d.root ++
      (List.range' d.root (d.stop d.root - d.root) ++
        List.range' (d.stop d.root) (d.size - d.stop d.root)) := by
    have hInner := List.range'_append_1 (s := d.root) (m := d.stop d.root - d.root)
      (n := d.size - d.stop d.root)
    have hOuter := List.range'_append_1 (s := 0) (m := d.root) (n := d.size - d.root)
    rw [Nat.add_sub_cancel' (Nat.le_of_lt hLow)] at hInner
    rw [Nat.zero_add, Nat.add_sub_cancel' (by omega)] at hOuter
    rw [hInner, List.range_eq_range', ← hOuter]
    congr 2
    omega
  have hBefore : (List.range' 0 d.root).filter d.isElement = [] := by
    refine List.filter_eq_nil_iff.mpr fun j hj hElement => ?_
    have hWithin := h.within hElement
    rw [List.mem_range'_1] at hj
    omega
  have hBehind : (List.range' (d.stop d.root) (d.size - d.stop d.root)).filter d.isElement = [] := by
    refine List.filter_eq_nil_iff.mpr fun j hj hElement => ?_
    have hWithin := h.within hElement
    rw [List.mem_range'_1] at hj
    omega
  rw [elementsIn, elements, hRows, hAll, List.filter_append, List.filter_append, hBefore, hBehind,
    List.nil_append, List.append_nil]

/-- From every row all elements are reached, in document order. -/
theorem elementsFrom_eq_elements (h : d.HasRoot) (hTree : d.IsTree) (hi : i < d.size) :
    d.elementsFrom i = d.elements := by
  rw [elementsFrom, outermost?_eq_root h hTree hi]
  exact h.elementsIn_root

end Reaching

end Document

end Intake.Xml
