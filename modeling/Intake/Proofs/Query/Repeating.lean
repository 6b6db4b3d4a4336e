import Mathlib.Data.Finset.Card
import Intake.Proofs.Groups
import Intake.Proofs.Query.NamePaths
import Intake.Proofs.Query.Order
import Intake.Proofs.Xml.Root

/-! The elements that are taken for lines because they repeat. A local name repeats if two elements or
more have it and all of them stand in one element; whatever their namespaces are does not count. The
elements that are found are those of the repeating name that comes first in the document. They are the
same ones from whatever node of the document the search sets out. -/

namespace Intake.Query

open Xml

variable {d : Document} {name : String} {i j : Nat}

/-- An element of a local name. -/
def Bears (d : Document) (name : String) (i : Nat) : Prop :=
  d.isElement i ∧ d.localName i = name

/-- A local name that two elements or more have, and all that have it stand in one element. -/
structure Repeats (d : Document) (name : String) : Prop where
  twice : ∃ i j, i ≠ j ∧ Bears d name i ∧ Bears d name j
  together : ∃ p, d.isElement p ∧ ∀ i, Bears d name i → d.parent i = p

/-- The name that comes first in a document among those that repeat. -/
structure FirstRepeating (d : Document) (name : String) : Prop where
  repeats : Repeats d name
  first : ∃ i, Bears d name i ∧ ∀ other j, Repeats d other → Bears d other j → i ≤ j

theorem mem_elementsNamed : i ∈ elementsNamed d name ↔ Bears d name i := by
  rw [elementsNamed, List.mem_filter, Document.mem_elements, beq_iff_eq]
  rfl

theorem elementsNamed_pairwise (d : Document) (name : String) :
    (elementsNamed d name).Pairwise (· < ·) := (XPath.elements_pairwise d).filter _

theorem elementAround?_eq_some {p : Nat} :
    d.elementAround? i = some p ↔ d.parent i = p ∧ p ≠ 0 := by
  unfold Document.elementAround?
  split
  · next hTop =>
    refine ⟨nofun, ?_⟩
    rintro ⟨rfl, hInner⟩
    exact absurd hTop hInner
  · next hInner =>
    rw [Option.some_inj]
    refine ⟨?_, And.left⟩
    rintro rfl
    exact ⟨rfl, hInner⟩

/-- Two elements or more repeat if one element is around all of them. -/
theorem isRepeating_eq_true {nodes : List Nat} : isRepeating d nodes = true ↔
    1 < nodes.length ∧ ∃ p, ∀ i ∈ nodes, d.elementAround? i = some p := by
  match nodes with
  | [] | [_] => simp [isRepeating]
  | first :: second :: rest =>
    rw [isRepeating, Bool.and_eq_true, List.all_eq_true]
    constructor
    · rintro ⟨hFirst, hSame⟩
      obtain ⟨p, hAround⟩ := Option.isSome_iff_exists.mp hFirst
      refine ⟨by simp, p, List.forall_mem_cons.mpr ⟨hAround, fun i hi => ?_⟩⟩
      rw [eq_of_beq (hSame i hi), hAround]
    · rintro ⟨-, p, hAll⟩
      obtain ⟨hFirst, hRest⟩ := List.forall_mem_cons.mp hAll
      rw [hFirst]
      exact ⟨rfl, fun i hi => by rw [hRest i hi, beq_self_eq_true]⟩

theorem one_lt_length_elementsNamed :
    1 < (elementsNamed d name).length ↔ ∃ i j, i ≠ j ∧ Bears d name i ∧ Bears d name j := by
  have hNodup : (elementsNamed d name).Nodup :=
    (elementsNamed_pairwise d name).imp fun hLt => Nat.ne_of_lt hLt
  rw [← List.toFinset_card_of_nodup hNodup, Finset.one_lt_card_iff]
  simp only [List.mem_toFinset, mem_elementsNamed]
  constructor
  · rintro ⟨i, j, hi, hj, hNe⟩
    exact ⟨i, j, hNe, hi, hj⟩
  · rintro ⟨i, j, hNe, hi, hj⟩
    exact ⟨i, j, hi, hj, hNe⟩

/-- The elements of a name repeat just as the name does. -/
theorem isRepeating_iff (hTree : d.IsTree) :
    isRepeating d (elementsNamed d name) = true ↔ Repeats d name := by
  rw [isRepeating_eq_true, one_lt_length_elementsNamed]
  simp only [mem_elementsNamed, elementAround?_eq_some]
  constructor
  · rintro ⟨hTwice, p, hAround⟩
    refine ⟨hTwice, p, ?_, fun i hi => (hAround i hi).1⟩
    obtain ⟨i, -, -, hi, -⟩ := hTwice
    obtain ⟨hParent, hInner⟩ := hAround i hi
    rcases hTree.holder (Document.pos_of_isElement hi.1)
      (Document.lt_size_of_isElement hi.1) with hTop | hElement
    · exact absurd (hParent.symm.trans hTop) hInner
    · rwa [hParent] at hElement
  · rintro ⟨hTwice, p, hElement, hTogether⟩
    have hInner := Nat.ne_of_gt (Document.pos_of_isElement hElement)
    exact ⟨hTwice, p, fun i hi => ⟨hTogether i hi, hInner⟩⟩

/-- Of the names of all elements, the first that repeats is the one that is searched for. -/
theorem firstRepeating_of_find? (hTree : d.IsTree)
    (h : (localNames d).find? (fun name => isRepeating d (elementsNamed d name)) = some name) :
    FirstRepeating d name := by
  obtain ⟨hRepeats, before, after, hNames, hBefore⟩ := List.find?_eq_some_iff_append.mp h
  obtain ⟨front, back, hSplit, hFront⟩ := eraseDups_eq_append_cons hNames
  obtain ⟨earlier, later, hElements, hEarlier, hLater⟩ := List.map_eq_append_iff.mp hSplit
  obtain ⟨i, later, rfl, hName, -⟩ := List.map_eq_cons_iff.mp hLater
  have hOrder := XPath.elements_pairwise d
  rw [hElements] at hOrder
  refine ⟨(isRepeating_iff hTree).mp hRepeats, i, ⟨?_, hName⟩, fun other j hOther hj => ?_⟩
  · exact Document.mem_elements.mp (hElements ▸ List.mem_append_cons_self)
  · have hMem : j ∈ earlier ++ i :: later := hElements ▸ Document.mem_elements.mpr hj.1
    rcases List.mem_append.mp hMem with hEarly | hLate
    · -- The name of an earlier element comes before the one that was found, so it does not repeat.
      have hNot := hBefore other (hFront other (hEarlier ▸ hj.2 ▸ List.mem_map_of_mem hEarly))
      rw [(isRepeating_iff hTree).mpr hOther] at hNot
      cases hNot
    · rcases List.mem_cons.mp hLate with rfl | hLate
      · exact Nat.le_refl j
      · have hSorted := (List.pairwise_append.mp hOrder).2.1
        exact Nat.le_of_lt ((List.pairwise_cons.mp hSorted).1 j hLate)

theorem repeatingElements_eq (d : Document) : repeatingElements d =
    (((localNames d).find? fun name => isRepeating d (elementsNamed d name)).map
      (elementsNamed d)).getD [] := by
  rw [repeatingElements, List.find?_map]
  rfl

/-- What the search for repeating elements finds: all elements of the first name that repeats, in
document order; nothing if no name repeats. -/
structure RepeatingFound (d : Document) (found : List Nat) : Prop where
  first : ∀ name, FirstRepeating d name → found = elementsNamed d name
  exists_first : (∃ name, Repeats d name) → ∃ name, FirstRepeating d name
  nothing : found = [] ↔ ∀ name, ¬Repeats d name
  root : d.root ∉ found

theorem FirstRepeating.unique {name' : String} (h : FirstRepeating d name)
    (h' : FirstRepeating d name') : name = name' := by
  obtain ⟨i, hi, hFirst⟩ := h.first
  obtain ⟨i', hi', hFirst'⟩ := h'.first
  have hSame : i = i' :=
    Nat.le_antisymm (hFirst name' i' h'.repeats hi') (hFirst' name i h.repeats hi)
  rw [← hi.2, ← hi'.2, hSame]

theorem repeatingFound (hRoot : d.HasRoot) (hTree : d.IsTree) :
    RepeatingFound d (repeatingElements d) := by
  rw [repeatingElements_eq]
  cases hFind : (localNames d).find? fun name => isRepeating d (elementsNamed d name) with
  | some name =>
    have hFirst := firstRepeating_of_find? hTree hFind
    obtain ⟨⟨i, -, -, hi, -⟩, p, hElement, hTogether⟩ := hFirst.repeats
    refine ⟨fun other hOther => ?_, fun _ => ⟨name, hFirst⟩, ?_, fun hMem => ?_⟩
    · rw [hFirst.unique hOther]
      rfl
    · refine ⟨fun hNone => ?_, fun hNone => absurd hFirst.repeats (hNone name)⟩
      have hMem : i ∈ elementsNamed d name := mem_elementsNamed.mpr hi
      rw [show elementsNamed d name = [] from hNone] at hMem
      cases hMem
    · have hOuter := hTogether d.root (mem_elementsNamed.mp hMem)
      rw [hRoot.parent] at hOuter
      exact Nat.lt_irrefl 0 (hOuter ▸ Document.pos_of_isElement hElement)
  | none =>
    have hNone : ∀ name, ¬Repeats d name := by
      intro name hName
      obtain ⟨i, -, -, hi, -⟩ := hName.twice
      have hMem : name ∈ localNames d := by
        exact List.mem_eraseDups.mpr
          (List.mem_map.mpr ⟨i, Document.mem_elements.mpr hi.1, hi.2⟩)
      exact List.find?_eq_none.mp hFind name hMem ((isRepeating_iff hTree).mpr hName)
    refine ⟨fun name hName => absurd hName.repeats (hNone name), ?_, ?_, List.not_mem_nil⟩
    · rintro ⟨name, hName⟩
      exact absurd hName (hNone name)
    · exact ⟨fun _ => hNone, fun _ => rfl⟩

/-- The search from a row: the elements of its document join groups by their local names, and the
first group is taken that repeats. -/
def repeatingFrom (d : Document) (i : Nat) : List Nat :=
  ((((d.elementsFrom i).foldl (joinGroup d.localName) []).map Prod.snd).find?
    (isRepeating d)).getD []

theorem repeatingFrom_eq (hRoot : d.HasRoot) (hTree : d.IsTree) (hi : i < d.size) :
    repeatingFrom d i = repeatingElements d := by
  rw [repeatingFrom, Document.elementsFrom_eq_elements hRoot hTree hi, foldl_joinGroup, groupsBy,
    List.map_map]
  rfl

/-- Whatever the bytes of a document are, the search finds the elements of the first repeating name,
and it finds them from every row. -/
theorem repeatingElements_found {bytes : List UInt8} (hRead : Document.ofBytes? bytes = some d) :
    RepeatingFound d (repeatingElements d) ∧
      ∀ i, i < d.size → repeatingFrom d i = repeatingElements d := by
  have hRoot := Document.ofBytes?_hasRoot hRead
  have hTree := Document.ofBytes?_isTree hRead
  exact ⟨repeatingFound hRoot hTree, fun i hi => repeatingFrom_eq hRoot hTree hi⟩

/-- The document `<r xmlns:p='u'><p:b/><a/><b/><a/></r>`. -/
def mixedDocument : Document :=
  let leaf (name : Name) : Content := .element ⟨name, [], []⟩ []
  .ofParts ⟨[], ⟨⟨none, none, "r"⟩, [], [⟨some "p", "u"⟩]⟩,
    [leaf ⟨some "u", some "p", "b"⟩, leaf ⟨none, none, "a"⟩, leaf ⟨none, none, "b"⟩,
      leaf ⟨none, none, "a"⟩], []⟩

/-- Of two names that repeat the first one counts, with elements in a namespace and without. -/
theorem repeatingElements_found_mixed :
    Document.ofBytes? (asciiBytes "<r xmlns:p='u'><p:b/><a/><b/><a/></r>") = some mixedDocument ∧
      RepeatingFound mixedDocument (repeatingElements mixedDocument) ∧
      repeatingFrom mixedDocument 5 = [2, 4] := by
  have hRead : Document.ofBytes? (asciiBytes "<r xmlns:p='u'><p:b/><a/><b/><a/></r>") =
      some mixedDocument := Document.ofBytes?_eq_of_rows (by decide +kernel)
  obtain ⟨hFound, hAnywhere⟩ := repeatingElements_found hRead
  refine ⟨hRead, hFound, ?_⟩
  rw [hAnywhere 5 (by decide +kernel)]
  decide +kernel

end Intake.Query
