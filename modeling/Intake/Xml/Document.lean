import Intake.Xml.Encoding
import Intake.Xml.Reader

/-! Documents as tables with one row for each node, in document order. The first row is the document
itself. Each row knows the row of its parent and where its content stops, so that the rows of its
content follow it without a gap. -/

namespace Intake.Xml

/-- What a row stands for. -/
inductive Kind where
  | document
  | element (tag : Tag)
  | text (s : String)
  | comment (s : String)
  | instruction (target data : String)
  | reference (s : String)
  deriving DecidableEq, Repr

instance : Inhabited Kind := ⟨.document⟩

/-- A node: what it is, the row of its parent, and the first row behind its content. -/
structure Row where
  kind : Kind
  parent : Nat
  stop : Nat
  deriving DecidableEq, Repr, Inhabited

mutual

/-- The rows of a piece of content that begins at row `start`. -/
def Content.rows (parent start : Nat) : Content → List Row
  | .element tag children =>
    let inner := rowsOf start (start + 1) children
    ⟨.element tag, parent, start + 1 + inner.length⟩ :: inner
  | .text s => [⟨.text s, parent, start + 1⟩]
  | .comment s => [⟨.comment s, parent, start + 1⟩]
  | .instruction target data => [⟨.instruction target data, parent, start + 1⟩]
  | .reference s => [⟨.reference s, parent, start + 1⟩]

/-- The rows of pieces of content that begin at row `start`. -/
def Content.rowsOf (parent start : Nat) : List Content → List Row
  | [] => []
  | c :: rest =>
    let first := c.rows parent start
    first ++ rowsOf parent (start + first.length) rest

end

/-- Rows from `start` on fit together below `parent`: the content of each stops among them, and its
parent is `parent` or an earlier row whose content reaches as far. -/
def Fits (parent start : Nat) (rows : List Row) : Prop :=
  ∀ j r, rows[j]? = some r →
    start + j < r.stop ∧ r.stop ≤ start + rows.length ∧
      (r.parent = parent ∨ ∃ k p, r.parent = start + k ∧ k < j ∧ rows[k]? = some p ∧
        start + j < p.stop ∧ r.stop ≤ p.stop)

theorem fits_nil (parent start : Nat) : Fits parent start [] := by
  intro j r h
  simp at h

theorem fits_append {parent start : Nat} {a b : List Row} (ha : Fits parent start a)
    (hb : Fits parent (start + a.length) b) : Fits parent start (a ++ b) := by
  intro j r h
  rw [List.length_append]
  by_cases hj : j < a.length
  · rw [List.getElem?_append_left hj] at h
    obtain ⟨h1, h2, h3⟩ := ha j r h
    refine ⟨h1, by omega, ?_⟩
    rcases h3 with h3 | ⟨k, p, hk, hkj, hp, hs⟩
    · exact .inl h3
    · exact .inr ⟨k, p, hk, hkj, by rw [List.getElem?_append_left (by omega)]; exact hp, hs⟩
  · rw [List.getElem?_append_right (by omega)] at h
    obtain ⟨h1, h2, h3⟩ := hb (j - a.length) r h
    refine ⟨by omega, by omega, ?_⟩
    rcases h3 with h3 | ⟨k, p, hk, hkj, hp, hs⟩
    · exact .inl h3
    · refine .inr ⟨a.length + k, p, by omega, by omega, ?_, by omega, hs.2⟩
      rw [List.getElem?_append_right (by omega), Nat.add_sub_cancel_left]
      exact hp

theorem fits_cons (parent start : Nat) (kind : Kind) {inner : List Row}
    (h : Fits start (start + 1) inner) :
    Fits parent start (⟨kind, parent, start + 1 + inner.length⟩ :: inner) := by
  intro j r hr
  cases j with
  | zero =>
    simp only [List.getElem?_cons_zero, Option.some.injEq] at hr
    subst hr
    refine ⟨?_, ?_, .inl rfl⟩ <;> simp only [List.length_cons] <;> omega
  | succ j =>
    rw [List.getElem?_cons_succ] at hr
    obtain ⟨h1, h2, h3⟩ := h j r hr
    refine ⟨by omega, by simp only [List.length_cons]; omega, .inr ?_⟩
    rcases h3 with h3 | ⟨k, p, hk, hkj, hp, hs⟩
    · have hj := (List.getElem?_eq_some_iff.1 hr).1
      refine ⟨0, _, h3, by omega, List.getElem?_cons_zero, ?_, ?_⟩
      · change start + (j + 1) < start + 1 + inner.length
        omega
      · change r.stop ≤ start + 1 + inner.length
        omega
    · exact ⟨k + 1, p, by omega, by omega, by rw [List.getElem?_cons_succ]; exact hp, by omega,
        hs.2⟩

theorem fits_leaf (parent start : Nat) (kind : Kind) :
    Fits parent start [⟨kind, parent, start + 1⟩] :=
  fits_cons parent start kind (fits_nil start (start + 1))

mutual

theorem Content.fits_rows (parent start : Nat) (c : Content) :
    Fits parent start (c.rows parent start) := by
  cases c with
  | element tag children =>
    rw [Content.rows]
    exact fits_cons _ _ _ (Content.fits_rowsOf _ _ children)
  | text s => exact fits_leaf _ _ _
  | comment s => exact fits_leaf _ _ _
  | instruction target data => exact fits_leaf _ _ _
  | reference s => exact fits_leaf _ _ _

theorem Content.fits_rowsOf (parent start : Nat) (cs : List Content) :
    Fits parent start (Content.rowsOf parent start cs) := by
  cases cs with
  | nil => exact fits_nil _ _
  | cons c rest =>
    rw [Content.rowsOf]
    exact fits_append (Content.fits_rows _ _ c) (Content.fits_rowsOf _ _ rest)

end

def Parts.rows (p : Parts) : List Row :=
  let inner := Content.rowsOf 0 1 (p.before ++ .element p.tag p.children :: p.behind)
  ⟨.document, 0, 1 + inner.length⟩ :: inner

theorem Parts.fits_rows (p : Parts) : Fits 0 0 p.rows := by
  simpa [Parts.rows] using fits_cons 0 0 .document
    (Content.fits_rowsOf 0 1 (p.before ++ .element p.tag p.children :: p.behind))

/-- The row of the one element that holds all others. -/
def Parts.root (p : Parts) : Nat := 1 + (Content.rowsOf 0 1 p.before).length

/-- A document. -/
structure Document where
  rows : Array Row
  /-- The row of the element that holds all others. -/
  root : Nat
  head : rows.toList[0]? = some ⟨.document, 0, rows.toList.length⟩
  fits : Fits 0 0 rows.toList

namespace Document

/-- The document with the given parts. -/
def ofParts (p : Parts) : Document :=
  ⟨p.rows.toArray, p.root, by
    simp only [Parts.rows, List.length_cons, List.getElem?_cons_zero, Nat.add_comm],
    by simpa using p.fits_rows⟩

def ofBytes? (bytes : List UInt8) : Option Document :=
  (decode? bytes).bind fun chars => (Parts.read? chars).map ofParts

def size (d : Document) : Nat := d.rows.size

/-- A row; rows that are not there are like the first one of an empty document. -/
def row (d : Document) (i : Nat) : Row := d.rows[i]?.getD ⟨.document, 0, 0⟩

def kind (d : Document) (i : Nat) : Kind := (d.row i).kind

/-- The row of the parent; the document is its own parent. -/
def parent (d : Document) (i : Nat) : Nat := (d.row i).parent

/-- The first row behind the content of a row. -/
def stop (d : Document) (i : Nat) : Nat := (d.row i).stop

def tag? (d : Document) (i : Nat) : Option Tag :=
  match d.kind i with
  | .element tag => some tag
  | _ => none

def isElement (d : Document) (i : Nat) : Bool := (d.tag? i).isSome

def localName (d : Document) (i : Nat) : String :=
  ((d.tag? i).map fun tag => tag.name.localName).getD ""

/-- The rows of the content of a row. -/
def descendants (d : Document) (i : Nat) : List Nat := List.range' (i + 1) (d.stop i - (i + 1))

def children (d : Document) (i : Nat) : List Nat :=
  (d.descendants i).filter fun j => d.parent j == i

def elements (d : Document) : List Nat := (List.range d.size).filter d.isElement

/-- The element around an element; the outermost one has none. -/
def elementAround? (d : Document) (i : Nat) : Option Nat :=
  if d.parent i = 0 then none else some (d.parent i)

/-- The places of an element and of those around it, the outermost first, each among the elements
with the same parent; at most `fuel` of them. -/
def placesWithin (d : Document) : Nat → Nat → List Nat
  | 0, _ => []
  | fuel + 1, i =>
    match d.elementAround? i with
    | none => [0]
    | some p =>
      d.placesWithin fuel p ++ [((d.children p).filter fun j => d.isElement j && j < i).length]

/-- The places of an element and of those around it, the outermost first, each among the elements
with the same parent. -/
def places (d : Document) (i : Nat) : List Nat := d.placesWithin d.size i

/-- The text that a row adds to the text of the rows around it. -/
def ownText (d : Document) (i : Nat) : String :=
  match d.kind i with
  | .text s => s
  | .reference s => s
  | _ => ""

/-- The text of a row: that of all its content, or the content of a comment or an instruction. -/
def text (d : Document) (i : Nat) : String :=
  match d.kind i with
  | .comment s => s
  | .instruction _ data => data
  | _ => (d.descendants i).foldl (fun s j => s ++ d.ownText j) (d.ownText i)

theorem row_of_lt (d : Document) {i : Nat} (h : i < d.size) :
    d.rows.toList[i]? = some (d.row i) := by
  have h : i < d.rows.size := h
  simp [row, h]

theorem row_eq_of_getElem? (d : Document) {i : Nat} {r : Row} (h : d.rows.toList[i]? = some r) :
    d.row i = r := by
  simp only [Array.getElem?_toList] at h
  simp [row, h]

@[simp] theorem stop_zero (d : Document) : d.stop 0 = d.size := by
  simpa [stop, size] using congrArg Row.stop (d.row_eq_of_getElem? d.head)

/-- The content of a row stops behind the row and within the document. -/
theorem lt_stop (d : Document) {i : Nat} (h : i < d.size) : i < d.stop i ∧ d.stop i ≤ d.size := by
  obtain ⟨h1, h2, _⟩ := d.fits i _ (d.row_of_lt h)
  simp only [Array.length_toList] at h2
  simp only [stop, size]
  omega

/-- The parent of a row behind the first one comes before it, and its content reaches as far. -/
theorem parent_lt (d : Document) {i : Nat} (h0 : 0 < i) (h : i < d.size) :
    d.parent i < i ∧ i < d.stop (d.parent i) ∧ d.stop i ≤ d.stop (d.parent i) := by
  obtain ⟨_, h2, hp⟩ := d.fits i _ (d.row_of_lt h)
  rcases hp with hp | ⟨k, p, hk, hki, hpk, hs1, hs2⟩
  · have hp : d.parent i = 0 := hp
    have hstop : d.stop i ≤ d.size := (d.lt_stop h).2
    rw [hp, d.stop_zero]
    exact ⟨h0, h, hstop⟩
  · have hk : d.parent i = k := by simpa [parent] using hk
    rw [hk]
    refine ⟨hki, ?_, ?_⟩ <;> simp only [stop, d.row_eq_of_getElem? hpk]
    · omega
    · exact hs2

end Document

end Intake.Xml
