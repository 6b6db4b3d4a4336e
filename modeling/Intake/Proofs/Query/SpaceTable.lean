import Mathlib.Data.List.Induction
import Intake.Proofs.Query.NamePaths
import Intake.Proofs.Xml.Declared
import Intake.Proofs.Xml.Root
import Intake.Record.Basic

/-! The table of the namespaces of a document. A qualifier stands for the namespace of its first
declaration in the document, however often it is declared again within or behind the element that
declares it first; the first default namespace that is not empty goes by a qualifier of its own, if no
element declares that. The table may as well be collected from what is in scope at each element: what
an element takes over from those around it was declared before. -/

namespace Intake.Query

open Xml XPath

/-- The first member of a list that satisfies `P`. -/
def IsFirst {α : Type} (l : List α) (P : α → Prop) (a : α) : Prop :=
  ∃ before after, l = before ++ a :: after ∧ P a ∧ ∀ b ∈ before, ¬P b

theorem find?_eq_some_iff_isFirst {α : Type} {l : List α} {P : α → Prop} [DecidablePred P] {a : α} :
    l.find? P = some a ↔ IsFirst l P a := by
  rw [List.find?_eq_some_iff_append]
  simp only [IsFirst, decide_eq_true_eq, Bool.not_eq_true', decide_eq_false_iff_not]
  constructor
  · rintro ⟨hFound, before, after, hSplit, hBefore⟩
    exact ⟨before, after, hSplit, hFound, hBefore⟩
  · rintro ⟨before, after, hSplit, hFound, hBefore⟩
    exact ⟨hFound, before, after, hSplit, hBefore⟩

/-- The namespaces of some declarations, the default one by the qualifier `q`. -/
def tableOf (q : String) (ds : List Declaration) : Spaces :=
  match defaultSpace? ds with
  | some space => addSpace (qualified ds) q space
  | none => qualified ds

theorem spacesOf_eq_tableOf (q : String) (d : Document) :
    spacesOf q d = tableOf q (declarations d) := rfl

section Tables

variable {spaces : Spaces} {ds es : List Declaration} {q p u : String}

theorem lookup_addSpace (spaces : Spaces) (qualifier space p : String) :
    (addSpace spaces qualifier space).lookup p =
      (spaces.lookup p).or (if p = qualifier then some space else none) := by
  unfold addSpace
  split
  · next hKnown =>
    by_cases hSame : p = qualifier
    · obtain ⟨known, hKnown⟩ := Option.isSome_iff_exists.mp hKnown
      rw [hSame, hKnown]
      rfl
    · rw [if_neg hSame, Option.or_none]
  · rw [List.lookup_append]
    congr 1
    by_cases hSame : p = qualifier
    · rw [if_pos hSame, hSame, List.lookup_cons_self]
    · rw [if_neg hSame, List.lookup_cons, beq_false_of_ne hSame]
      rfl

theorem names_addSpace_nodup {qualifier space : String} (h : (spaces.map Prod.fst).Nodup) :
    ((addSpace spaces qualifier space).map Prod.fst).Nodup := by
  unfold addSpace
  split
  · exact h
  · next hNew =>
    rw [List.map_append]
    refine List.nodup_append.mpr ⟨h, by simp, ?_⟩
    rintro name hName _ hLast rfl
    obtain rfl : name = qualifier := by simpa using hLast
    exact hNew (Record.lookup_isSome_of_mem hName)

/-- The table with one more declaration, if it has a qualifier that is new. -/
def declare (spaces : Spaces) (δ : Declaration) : Spaces :=
  match δ.qualifier with
  | some q => addSpace spaces q δ.space
  | none => spaces

theorem qualified_append (ds es : List Declaration) :
    qualified (ds ++ es) = es.foldl declare (qualified ds) := List.foldl_append

theorem lookup_foldl_declare (spaces : Spaces) (ds : List Declaration) (p : String) :
    (ds.foldl declare spaces).lookup p = (spaces.lookup p).or
      ((ds.find? fun δ => δ.qualifier = some p).map Declaration.space) := by
  induction ds generalizing spaces with
  | nil => rw [List.foldl_nil, List.find?_nil, Option.map_none, Option.or_none]
  | cons δ rest ih =>
    rw [List.foldl_cons, ih, declare]
    cases hQualifier : δ.qualifier with
    | none => simp [hQualifier]
    | some name =>
      rw [lookup_addSpace, Option.or_assoc]
      congr 1
      by_cases hSame : p = name
      · simp [hQualifier, hSame]
      · simp [hQualifier, hSame, Ne.symm hSame]

/-- The namespace of the first declaration of a kind, where all of that kind have one qualifier. -/
theorem find?_space_eq_some {P : Declaration → Prop} [DecidablePred P] {qualifier : Option String}
    (hKind : ∀ δ, P δ → δ.qualifier = qualifier) :
    (ds.find? P).map Declaration.space = some u ↔ IsFirst ds P ⟨qualifier, u⟩ := by
  rw [Option.map_eq_some_iff, ← find?_eq_some_iff_isFirst]
  constructor
  · rintro ⟨δ, hFound, rfl⟩
    have hQualifier := hKind δ (by simpa using List.find?_some hFound)
    rw [hFound, ← hQualifier]
  · intro hFound
    exact ⟨⟨qualifier, u⟩, hFound, rfl⟩

theorem lookup_qualified (ds : List Declaration) (p : String) : (qualified ds).lookup p =
    (ds.find? fun δ => δ.qualifier = some p).map Declaration.space := by
  rw [show qualified ds = ds.foldl declare [] from rfl, lookup_foldl_declare, List.lookup_nil,
    Option.none_or]

theorem lookup_qualified_eq_none :
    (qualified ds).lookup p = none ↔ ∀ δ ∈ ds, δ.qualifier ≠ some p := by
  rw [lookup_qualified, Option.map_eq_none_iff, List.find?_eq_none]
  simp

theorem defaultSpace?_eq (ds : List Declaration) : defaultSpace? ds =
    (ds.find? fun δ => δ.qualifier = none ∧ δ.space ≠ "").map Declaration.space := by
  induction ds with
  | nil => rfl
  | cons δ rest ih =>
    rw [defaultSpace?, List.findSome?_cons, List.find?_cons]
    by_cases hDefault : δ.qualifier = none ∧ δ.space ≠ ""
    · simp [hDefault.1, hDefault.2]
    · have hOther : (δ.qualifier.isNone && !δ.space.isEmpty) = false := by
        simpa [Bool.and_eq_false_iff] using not_and.mp hDefault
      simp only [hOther, hDefault, decide_false, Bool.false_eq_true, if_false]
      exact ih

theorem defaultSpace?_append (ds es : List Declaration) :
    defaultSpace? (ds ++ es) = (defaultSpace? ds).or (defaultSpace? es) := List.findSome?_append

/-- A table of namespaces: each qualifier that is declared stands for the namespace of its first
declaration, and `q`, unless it is declared itself, for the first default namespace that is not
empty. -/
structure IsTable (q : String) (ds : List Declaration) (spaces : Spaces) : Prop where
  entry : ∀ p u, spaces.lookup p = some u ↔
    IsFirst ds (·.qualifier = some p) ⟨some p, u⟩ ∨
      p = q ∧ (∀ δ ∈ ds, δ.qualifier ≠ some q) ∧
        IsFirst ds (fun δ => δ.qualifier = none ∧ δ.space ≠ "") ⟨none, u⟩
  distinct : (spaces.map Prod.fst).Nodup

theorem names_foldl_declare_nodup (h : (spaces.map Prod.fst).Nodup) :
    ((ds.foldl declare spaces).map Prod.fst).Nodup := by
  induction ds generalizing spaces with
  | nil => exact h
  | cons δ rest ih =>
    refine ih ?_
    unfold declare
    split
    · exact names_addSpace_nodup h
    · exact h

theorem tableOf_isTable (q : String) (ds : List Declaration) : IsTable q ds (tableOf q ds) := by
  have hNames : ((qualified ds).map Prod.fst).Nodup := names_foldl_declare_nodup List.nodup_nil
  have hDeclared : ∀ p u, (qualified ds).lookup p = some u ↔
      IsFirst ds (·.qualifier = some p) ⟨some p, u⟩ := by
    intro p u
    rw [lookup_qualified]
    exact find?_space_eq_some fun _ h => h
  have hDefault : ∀ u, defaultSpace? ds = some u ↔
      IsFirst ds (fun δ => δ.qualifier = none ∧ δ.space ≠ "") ⟨none, u⟩ := by
    intro u
    rw [defaultSpace?_eq]
    exact find?_space_eq_some fun _ h => h.1
  unfold tableOf
  split
  · next space hSpace =>
    refine ⟨fun p u => ?_, names_addSpace_nodup hNames⟩
    rw [lookup_addSpace, Option.or_eq_some_iff, hDeclared, lookup_qualified_eq_none, ← hDefault,
      hSpace]
    by_cases hSame : p = q
    · simp [hSame]
    · simp [hSame]
  · next hNone =>
    refine ⟨fun p u => ?_, hNames⟩
    rw [hDeclared, ← hDefault, hNone]
    simp

/-- Declarations that make the same table. -/
structure Agree (ds es : List Declaration) : Prop where
  qualified : qualified ds = qualified es
  default : defaultSpace? ds = defaultSpace? es

theorem Agree.append (h : Agree ds es) (more : List Declaration) :
    Agree (ds ++ more) (es ++ more) where
  qualified := by rw [qualified_append, qualified_append, h.qualified]
  default := by rw [defaultSpace?_append, defaultSpace?_append, h.default]

theorem foldl_declare_known (h : ∀ δ ∈ es, ∀ p, δ.qualifier = some p → (spaces.lookup p).isSome) :
    es.foldl declare spaces = spaces := by
  induction es with
  | nil => rfl
  | cons δ rest ih =>
    have hFirst : declare spaces δ = spaces := by
      unfold declare
      split
      · next p hQualifier => rw [addSpace, if_pos (h δ List.mem_cons_self p hQualifier)]
      · rfl
    rw [List.foldl_cons, hFirst]
    exact ih fun e he => h e (List.mem_cons_of_mem δ he)

/-- Declaring again what has been declared changes nothing. -/
theorem Agree.absorb (h : ∀ δ ∈ es, δ ∈ ds) : Agree (ds ++ es) ds where
  qualified := by
    rw [qualified_append]
    refine foldl_declare_known fun δ hδ p hQualifier => ?_
    rw [← Option.ne_none_iff_isSome, Ne, lookup_qualified_eq_none]
    exact fun hNone => hNone δ (h δ hδ) hQualifier
  default := by
    rw [defaultSpace?_append]
    cases hFirst : defaultSpace? ds with
    | some space => rfl
    | none =>
      rw [Option.none_or, defaultSpace?, List.findSome?_eq_none_iff]
      exact fun δ hδ => List.findSome?_eq_none_iff.mp hFirst δ (h δ hδ)

theorem Agree.trans {fs : List Declaration} (h : Agree ds es) (h' : Agree es fs) : Agree ds fs :=
  ⟨h.qualified.trans h'.qualified, h.default.trans h'.default⟩

theorem Agree.tableOf (h : Agree ds es) (q : String) : tableOf q ds = tableOf q es := by
  rw [Query.tableOf, Query.tableOf, h.qualified, h.default]

theorem mem_of_mem_firstDeclarations {δ : Declaration} (h : δ ∈ Document.firstDeclarations ds) :
    δ ∈ ds := by
  induction ds with
  | nil => cases h
  | cons first rest ih =>
    rcases List.mem_cons.mp h with rfl | hLater
    · exact List.mem_cons_self
    · exact List.mem_cons_of_mem first (ih (List.mem_filter.mp hLater).1)

/-- Of declarations with different qualifiers each is the first, whatever comes behind them. -/
theorem firstDeclarations_append (es : List Declaration)
    (h : (ds.map Declaration.qualifier).Nodup) :
    ∃ more, Document.firstDeclarations (ds ++ es) = ds ++ more ∧ ∀ δ ∈ more, δ ∈ es := by
  induction ds with
  | nil => exact ⟨_, rfl, fun δ hδ => mem_of_mem_firstDeclarations hδ⟩
  | cons first rest ih =>
    obtain ⟨hNew, hRest⟩ := List.nodup_cons.mp h
    obtain ⟨more, hMore, hMem⟩ := ih hRest
    refine ⟨more.filter fun δ => δ.qualifier != first.qualifier, ?_,
      fun δ hδ => hMem δ (List.mem_filter.mp hδ).1⟩
    have hKept : (rest.filter fun δ => δ.qualifier != first.qualifier) = rest := by
      refine List.filter_eq_self.mpr fun δ hδ => bne_iff_ne.mpr fun hSame => hNew ?_
      exact hSame ▸ List.mem_map_of_mem hδ
    rw [List.cons_append, Document.firstDeclarations, hMore, List.filter_append, hKept]
    rfl

end Tables

section Documents

variable {d : Document} {q : String}

/-- The declarations in the tag of an element. -/
def ownDeclarations (d : Document) (i : Nat) : List Declaration :=
  ((d.tag? i).map Tag.declarations).getD []

/-- The declarations that are in scope at an element, the nearest first. -/
def inScope (d : Document) (i : Nat) : List Declaration :=
  Document.firstDeclarations (d.declarationsAround i)

/-- Elements whose tags declare each qualifier once make the same table with what is in scope at them
as with what they declare, as long as all elements before each of them are among them. -/
theorem agree_inScope (hTags : ∀ i tag, d.tag? i = some tag → tag.DeclaresOnce) {es rest : List Nat}
    (hElements : d.elements = es ++ rest) :
    Agree (es.flatMap (inScope d)) (es.flatMap (ownDeclarations d)) := by
  induction es using List.reverseRecOn generalizing rest with
  | nil => exact ⟨rfl, rfl⟩
  | append_singleton es i ih =>
    rw [List.append_assoc] at hElements
    have hOwn : ((ownDeclarations d i).map Declaration.qualifier).Nodup := by
      unfold ownDeclarations
      cases hTag : d.tag? i with
      | none => exact List.nodup_nil
      | some tag => exact (hTags i tag hTag).distinct
    obtain ⟨more, hMore, hMem⟩ :=
      firstDeclarations_append ((d.ancestors i).flatMap (ownDeclarations d)) hOwn
    have hScope : inScope d i = ownDeclarations d i ++ more := hMore
    -- What is taken over has been declared by an element around this one, which comes before it.
    have hEarlier : ∀ δ ∈ more, δ ∈ es.flatMap (ownDeclarations d) ++ ownDeclarations d i := by
      intro δ hδ
      obtain ⟨k, hk, hδ⟩ := List.mem_flatMap.mp (hMem δ hδ)
      refine List.mem_append_left _ (List.mem_flatMap.mpr ⟨k, ?_, hδ⟩)
      have hElement : d.isElement k := by
        unfold ownDeclarations at hδ
        unfold Document.isElement
        cases hTag : d.tag? k with
        | none =>
          rw [hTag] at hδ
          cases hδ
        | some tag => rfl
      have hAll : k ∈ es ++ ([i] ++ rest) := hElements ▸ Document.mem_elements.mpr hElement
      have hOrder := XPath.elements_pairwise d
      rw [hElements] at hOrder
      have hLater := (List.pairwise_append.mp hOrder).2.1
      have hLow := Document.lt_of_mem_ancestors hk
      rcases List.mem_append.mp hAll with hEarly | hLate
      · exact hEarly
      · rcases List.mem_cons.mp hLate with rfl | hBehind
        · exact absurd hLow (Nat.lt_irrefl k)
        · exact absurd ((List.pairwise_cons.mp hLater).1 k hBehind) (Nat.lt_asymm hLow)
    rw [List.flatMap_append, List.flatMap_append, List.flatMap_singleton, List.flatMap_singleton,
      hScope, ← List.append_assoc]
    exact (((ih hElements).append _).append _).trans (.absorb hEarlier)

/-- The table that is collected from a row: from what is in scope at each element of its document. -/
def spacesFrom (q : String) (d : Document) (i : Nat) : Spaces :=
  tableOf q ((d.elementsFrom i).flatMap (inScope d))

/-- The namespaces of a document that is read, whatever its bytes are and whatever qualifier stands
for the default one. No declaration of `xml` is kept; the table is the same one from every row. -/
theorem spacesOf_isTable {bytes : List UInt8} (hRead : Document.ofBytes? bytes = some d)
    (q : String) :
    IsTable q (declarations d) (spacesOf q d) ∧
      (∀ δ ∈ declarations d, δ.qualifier ≠ some "xml") ∧
      ∀ i, i < d.size → spacesFrom q d i = spacesOf q d := by
  have hTags : ∀ i tag, d.tag? i = some tag → tag.DeclaresOnce :=
    fun _ _ hTag => Document.ofBytes?_declaresOnce hRead hTag
  rw [spacesOf_eq_tableOf]
  refine ⟨tableOf_isTable q (declarations d), fun δ hδ => ?_, fun i hi => ?_⟩
  · obtain ⟨i, -, hδ⟩ := List.mem_flatMap.mp hδ
    cases hTag : d.tag? i with
    | none => simp [hTag] at hδ
    | some tag => exact (hTags i tag hTag).unreserved δ (by simpa [hTag] using hδ)
  · rw [spacesFrom, Document.elementsFrom_eq_elements (Document.ofBytes?_hasRoot hRead)
      (Document.ofBytes?_isTree hRead) hi]
    exact (agree_inScope hTags (List.append_nil _).symm).tableOf q

/-- The document `<r xmlns='' xmlns:p='u'><b xmlns:p='v' xmlns='w'/></r>`. -/
def redeclaringDocument : Document :=
  .ofParts ⟨[], ⟨⟨none, none, "r"⟩, [], [⟨none, ""⟩, ⟨some "p", "u"⟩]⟩,
    [.element ⟨⟨some "w", none, "b"⟩, [], [⟨some "p", "v"⟩, ⟨none, "w"⟩]⟩ []], []⟩

/-- A qualifier that is declared again keeps its first namespace. -/
theorem spacesOf_isTable_redeclared :
    Document.ofBytes? (asciiBytes "<r xmlns='' xmlns:p='u'><b xmlns:p='v' xmlns='w'/></r>") =
        some redeclaringDocument ∧
      IsTable "default" (declarations redeclaringDocument)
        (spacesOf "default" redeclaringDocument) ∧
      spacesFrom "default" redeclaringDocument 2 = [("p", "u"), ("default", "w")] := by
  have hRead : Document.ofBytes?
      (asciiBytes "<r xmlns='' xmlns:p='u'><b xmlns:p='v' xmlns='w'/></r>") =
        some redeclaringDocument := Document.ofBytes?_eq_of_rows (by decide +kernel)
  obtain ⟨hTable, -, hAnywhere⟩ := spacesOf_isTable hRead "default"
  refine ⟨hRead, hTable, ?_⟩
  rw [hAnywhere 2 (by decide +kernel)]
  decide +kernel

/-- The document `<r/>`. -/
def bareDocument : Document := .ofParts ⟨[], ⟨⟨none, none, "r"⟩, [], []⟩, [], []⟩

/-- The qualifier `xml` is not in the table of a document that declares it. -/
theorem spacesOf_xmlDeclared :
    Document.ofBytes? (asciiBytes "<r xmlns:xml='http://www.w3.org/XML/1998/namespace'/>") =
        some bareDocument ∧
      (spacesOf "default" bareDocument).lookup "xml" = none :=
  ⟨Document.ofBytes?_eq_of_rows (by decide +kernel), by decide +kernel⟩

end Documents

end Intake.Query
