import Intake.Xml.Document

/-! The nesting of the rows of a document. The content of a row holds the content of each row within
it, and only the document and elements have rows within them. -/

namespace Intake.Xml

/-- Rows from `start` on are nested: what stands within a row has its parent there, and each parent
is `parent` or an element. -/
def Nested (parent start : Nat) (rows : List Row) : Prop :=
  ∀ j r, rows[j]? = some r →
    (∀ k p, rows[k]? = some p → k < j → start + j < p.stop → start + k ≤ r.parent) ∧
    (r.parent = parent ∨ ∃ k p tag, r.parent = start + k ∧ rows[k]? = some p ∧
      p.kind = .element tag)

theorem nested_nil (parent start : Nat) : Nested parent start [] := by
  intro j r h
  simp at h

theorem nested_append {parent start : Nat} {a b : List Row} (hFits : Fits parent start a)
    (ha : Nested parent start a) (hb : Nested parent (start + a.length) b) :
    Nested parent start (a ++ b) := by
  intro j r hj
  by_cases hjLeft : j < a.length
  · rw [List.getElem?_append_left hjLeft] at hj
    obtain ⟨hWithin, hParent⟩ := ha j r hj
    refine ⟨fun k p hk hkj hStop => ?_, ?_⟩
    · rw [List.getElem?_append_left (by omega)] at hk
      exact hWithin k p hk hkj hStop
    · refine hParent.imp_right ?_
      rintro ⟨k, p, tag, hSame, hk, hKind⟩
      have hkLeft := (List.getElem?_eq_some_iff.mp hk).1
      exact ⟨k, p, tag, hSame, by rwa [List.getElem?_append_left hkLeft], hKind⟩
  · rw [List.getElem?_append_right (by omega)] at hj
    obtain ⟨hWithin, hParent⟩ := hb (j - a.length) r hj
    refine ⟨fun k p hk hkj hStop => ?_, ?_⟩
    · by_cases hkLeft : k < a.length
      · rw [List.getElem?_append_left hkLeft] at hk
        have hBound := (hFits k p hk).2.1
        omega
      · rw [List.getElem?_append_right (by omega)] at hk
        have hLow := hWithin (k - a.length) p hk (by omega) (by omega)
        omega
    · refine hParent.imp_right ?_
      rintro ⟨k, p, tag, hSame, hk, hKind⟩
      refine ⟨a.length + k, p, tag, by omega, ?_, hKind⟩
      rw [List.getElem?_append_right (by omega), Nat.add_sub_cancel_left]
      exact hk

theorem nested_element (parent start : Nat) (tag : Tag) {inner : List Row}
    (hFits : Fits start (start + 1) inner) (h : Nested start (start + 1) inner) :
    Nested parent start (⟨.element tag, parent, start + 1 + inner.length⟩ :: inner) := by
  intro j r hj
  cases j with
  | zero =>
    obtain rfl : _ = r := by simpa using hj
    exact ⟨fun k p _ hk => absurd hk (Nat.not_lt_zero k), .inl rfl⟩
  | succ j =>
    rw [List.getElem?_cons_succ] at hj
    obtain ⟨hWithin, hParent⟩ := h j r hj
    have hAbove : start ≤ r.parent := by
      obtain ⟨-, -, hSame | ⟨k, -, hSame, -⟩⟩ := hFits j r hj <;> omega
    refine ⟨fun k p hk hkj hStop => ?_, .inr ?_⟩
    · cases k with
      | zero => exact hAbove
      | succ k =>
        rw [List.getElem?_cons_succ] at hk
        have hLow := hWithin k p hk (by omega) (by omega)
        omega
    · rcases hParent with hSame | ⟨k, p, other, hSame, hk, hKind⟩
      · exact ⟨0, _, tag, hSame, List.getElem?_cons_zero, rfl⟩
      · exact ⟨k + 1, p, other, by omega, by rwa [List.getElem?_cons_succ], hKind⟩

theorem nested_leaf (parent start : Nat) (kind : Kind) :
    Nested parent start [⟨kind, parent, start + 1⟩] := by
  intro j r hj
  cases j with
  | zero =>
    obtain rfl : _ = r := by simpa using hj
    exact ⟨fun k p _ hk => absurd hk (Nat.not_lt_zero k), .inl rfl⟩
  | succ j => simp at hj

mutual

theorem Content.nested_rows (parent start : Nat) (c : Content) :
    Nested parent start (c.rows parent start) := by
  cases c with
  | element tag children =>
    rw [Content.rows]
    exact nested_element _ _ _ (Content.fits_rowsOf _ _ children)
      (Content.nested_rowsOf _ _ children)
  | text s => exact nested_leaf _ _ _
  | comment s => exact nested_leaf _ _ _
  | instruction target data => exact nested_leaf _ _ _
  | reference s => exact nested_leaf _ _ _

theorem Content.nested_rowsOf (parent start : Nat) (cs : List Content) :
    Nested parent start (Content.rowsOf parent start cs) := by
  cases cs with
  | nil => exact nested_nil _ _
  | cons c rest =>
    rw [Content.rowsOf]
    exact nested_append (Content.fits_rows _ _ c) (Content.nested_rows _ _ c)
      (Content.nested_rowsOf _ _ rest)

end

namespace Document

/-- The rows of a document make a tree below the document itself. -/
structure IsTree (d : Document) : Prop where
  within : ∀ {i j}, j < d.size → i < j → j < d.stop i → i ≤ d.parent j
  holder : ∀ {j}, 0 < j → j < d.size → d.parent j = 0 ∨ d.isElement (d.parent j)

theorem isTree_ofParts (p : Parts) : (ofParts p).IsTree := by
  let inner := Content.rowsOf 0 1 (p.before ++ .element p.tag p.children :: p.behind)
  have hNested : Nested 0 1 inner := Content.nested_rowsOf 0 1 _
  have hRows : (ofParts p).rows.toList = ⟨.document, 0, 1 + inner.length⟩ :: inner := rfl
  have hInner : ∀ {j}, 0 < j → j < (ofParts p).size → inner[j - 1]? = some ((ofParts p).row j) := by
    intro j hPos hj
    have hRow := (ofParts p).row_of_lt hj
    rw [hRows, ← Nat.sub_add_cancel hPos, List.getElem?_cons_succ, Nat.sub_add_cancel hPos] at hRow
    exact hRow
  constructor
  · intro i j hj hij hStop
    rcases Nat.eq_zero_or_pos i with rfl | hPos
    · exact Nat.zero_le _
    · have hRow := hInner (by omega) hj
      have hAround := hInner hPos (by omega)
      have hLow := (hNested _ _ hRow).1 _ _ hAround (by omega) (by
        rw [Nat.add_sub_cancel' (by omega : 1 ≤ j)]
        exact hStop)
      rwa [Nat.add_sub_cancel' (by omega : 1 ≤ i)] at hLow
  · intro j hPos hj
    refine (hNested _ _ (hInner hPos hj)).2.imp_right ?_
    rintro ⟨k, p', tag, hSame, hk, hKind⟩
    have hRow : (ofParts p).row (1 + k) = p' := by
      apply row_eq_of_getElem?
      rw [hRows, Nat.add_comm 1 k, List.getElem?_cons_succ]
      exact hk
    have hParent : (ofParts p).parent j = 1 + k := hSame
    simp [hParent, isElement, tag?, kind, hRow, hKind]

section Rows

variable {d : Document} {i j : Nat}

theorem mem_descendants : j ∈ d.descendants i ↔ i < j ∧ j < d.stop i := by
  simp only [descendants, List.mem_range'_1]
  omega

theorem eq_of_rows {d d' : Document} (hRows : d.rows.toList = d'.rows.toList)
    (hRoot : d.root = d'.root) : d = d' := by
  obtain ⟨rows, root, head, fits⟩ := d
  obtain ⟨rows', root', head', fits'⟩ := d'
  obtain rfl : rows = rows' := Array.toList_inj.mp hRows
  obtain rfl : root = root' := hRoot
  rfl

/-- What is read is known by its rows. -/
theorem ofBytes?_eq_of_rows {bytes : List UInt8} {d : Document}
    (h : (ofBytes? bytes).map (fun d => (d.rows.toList, d.root)) = some (d.rows.toList, d.root)) :
    ofBytes? bytes = some d := by
  obtain ⟨d', hRead, hSame⟩ := Option.map_eq_some_iff.mp h
  obtain ⟨hRows, hRoot⟩ := Prod.ext_iff.mp hSame
  rw [hRead, eq_of_rows hRows hRoot]

theorem size_pos (d : Document) : 0 < d.size :=
  (List.getElem?_eq_some_iff.mp d.head).1

theorem kind_zero : d.kind 0 = .document :=
  congrArg Row.kind (d.row_eq_of_getElem? d.head)

theorem isElement_iff : d.isElement i ↔ ∃ tag, d.kind i = .element tag := by
  unfold isElement tag?
  cases d.kind i <;> simp

theorem kind_of_le (h : d.size ≤ i) : d.kind i = .document := by
  have hRow : d.rows[i]? = none := Array.getElem?_eq_none h
  simp [kind, row, hRow]

theorem lt_size_of_kind {tag : Tag} (h : d.kind i = .element tag) : i < d.size := by
  refine Nat.lt_of_not_le fun hOut => ?_
  rw [kind_of_le hOut] at h
  cases h

theorem lt_size_of_isElement (h : d.isElement i) : i < d.size := by
  obtain ⟨tag, hTag⟩ := isElement_iff.mp h
  exact lt_size_of_kind hTag

theorem pos_of_isElement (h : d.isElement i) : 0 < i := by
  obtain ⟨tag, hTag⟩ := isElement_iff.mp h
  refine Nat.pos_of_ne_zero ?_
  rintro rfl
  rw [kind_zero] at hTag
  cases hTag

theorem mem_elements : i ∈ d.elements ↔ d.isElement i := by
  rw [elements, List.mem_filter, List.mem_range]
  exact and_iff_right_of_imp lt_size_of_isElement

theorem stop_of_le (h : d.size ≤ i) : d.stop i = 0 := by
  have hRow : d.rows[i]? = none := Array.getElem?_eq_none h
  simp [stop, row, hRow]

theorem lt_size_of_lt_stop (h : j < d.stop i) : j < d.size := by
  by_cases hi : i < d.size
  · exact Nat.lt_of_lt_of_le h (d.lt_stop hi).2
  · rw [stop_of_le (Nat.le_of_not_lt hi)] at h
    exact absurd h (Nat.not_lt_zero j)

/-- The children of a row are the rows that have it as their parent, the document left aside. -/
theorem mem_children : j ∈ d.children i ↔ 0 < j ∧ j < d.size ∧ d.parent j = i := by
  rw [children, List.mem_filter, mem_descendants, beq_iff_eq]
  constructor
  · rintro ⟨⟨hLow, hStop⟩, hParent⟩
    exact ⟨by omega, lt_size_of_lt_stop hStop, hParent⟩
  · rintro ⟨hPos, hj, rfl⟩
    obtain ⟨hLow, hStop, -⟩ := d.parent_lt hPos hj
    exact ⟨⟨hLow, hStop⟩, rfl⟩

namespace IsTree

/-- The content of a row within a row stops there. -/
theorem stop_le (h : d.IsTree) (hj : j < d.size) (hij : i < j) (hStop : j < d.stop i) :
    d.stop j ≤ d.stop i := by
  induction j using Nat.strongRecOn with
  | _ j ih =>
    obtain ⟨hLow, -, hHigh⟩ := d.parent_lt (by omega) hj
    rcases Nat.lt_or_eq_of_le (h.within hj hij hStop) with hBetween | hSame
    · have hParent := ih (d.parent j) hLow (by omega) hBetween (by omega)
      omega
    · rwa [hSame]

/-- What stands within a row has its parent there, or is its child. -/
theorem lt_stop_iff (h : d.IsTree) (hj : j < d.size) :
    i < j ∧ j < d.stop i ↔
      0 < j ∧ (d.parent j = i ∨ i < d.parent j ∧ d.parent j < d.stop i) := by
  constructor
  · rintro ⟨hij, hStop⟩
    have hLow := h.within hj hij hStop
    have hParent := (d.parent_lt (by omega) hj).1
    omega
  · rintro ⟨hPos, hParent⟩
    obtain ⟨hLow, hStop, -⟩ := d.parent_lt hPos hj
    rcases hParent with rfl | ⟨hBetween, hInside⟩
    · exact ⟨hLow, hStop⟩
    · have hHigh := h.stop_le (by omega) hBetween hInside
      omega

end IsTree

end Rows

end Document

end Intake.Xml
