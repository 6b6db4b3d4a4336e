import Intake.Proofs.Query.Order
import Intake.Proofs.Query.Spaces
import Intake.Proofs.XPath.Selecting

/-! Queries for paths of names. If all elements of a document are in one namespace, or all in none,
whatever qualifiers a path mentions, it finds the elements that its steps select by their local names
alone. -/

namespace Intake.Query

open Xml XPath Intake.Path

section Attempts

variable {d : Document} {spaces : Spaces} {n : Node} {found : List Nat}

/-- What an attempt may come to if it cannot find anything but some rows: a failure, nothing, or these
rows. -/
def Attains (d : Document) (spaces : Spaces) (n : Node) (found : List Nat) (candidate : String) :
    Prop :=
  ∃ x, attempt d spaces n candidate = .ok x ∧ Reaches found x

/-- An attempt fails, or finds no rows or such as `P` is true of. -/
def Finds (d : Document) (spaces : Spaces) (n : Node) (P : List Nat → Prop) (candidate : String) :
    Prop :=
  ∃ x, attempt d spaces n candidate = .ok x ∧
    ((∃ e, x = .error e) ∨ ∃ js : List Nat, x = .ok (.nodes (js.map .row)) ∧ (js = [] ∨ P js))

/-- A search ends with what one of its attempts finds, or with nothing if all of them find nothing. -/
theorem search_of_finds {P : List Nat → Prop} {candidates : List String} (path : String)
    (failed : Option XPath.Error) (isEvaluated : Bool)
    (hFinds : ∀ c ∈ candidates, Finds d spaces n P c)
    (hSome : isEvaluated ∨ ∃ c ∈ candidates, ∃ js : List Nat,
      attempt d spaces n c = .ok (.ok (.nodes (js.map .row)))) :
    ∃ js : List Nat, (search d spaces n path failed isEvaluated candidates).value =
        .ok (if js = [] then none else some (.nodes (js.map .row))) ∧ (js = [] ∨ P js) ∧
      (js = [] → ∀ c ∈ candidates, ∀ found : List Nat,
        attempt d spaces n c = .ok (.ok (.nodes (found.map .row))) → found = []) := by
  induction candidates generalizing failed isEvaluated with
  | nil =>
    obtain rfl : isEvaluated = true := by simpa using hSome
    refine ⟨[], ?_, .inl rfl, fun _ _ hc => absurd hc List.not_mem_nil⟩
    cases failed <;> rfl
  | cons c rest ih =>
    obtain ⟨hFirst, hRest⟩ := List.forall_mem_cons.mp hFinds
    obtain ⟨x, hAttempt, hEnd⟩ := hFirst
    unfold search
    rw [hAttempt]
    rcases hEnd with ⟨e, rfl⟩ | ⟨js, rfl, hHolds⟩
    · have hOther : isEvaluated ∨ ∃ c' ∈ rest, ∃ js : List Nat,
          attempt d spaces n c' = .ok (.ok (.nodes (js.map .row))) := by
        rcases hSome with hDone | ⟨c', hc', js, hFound⟩
        · exact .inl hDone
        · rcases List.mem_cons.mp hc' with rfl | hc'
          · rw [hAttempt] at hFound
            cases hFound
          · exact .inr ⟨c', hc', js, hFound⟩
      obtain ⟨js, hValue, hHolds, hNothing⟩ := ih (failed.or (some e)) isEvaluated hRest hOther
      refine ⟨js, hValue, hHolds, fun hNone => List.forall_mem_cons.mpr ⟨?_, hNothing hNone⟩⟩
      intro found hFound
      rw [hAttempt] at hFound
      cases hFound
    · cases js with
      | nil =>
        obtain ⟨js, hValue, hHolds, hNothing⟩ := ih failed true hRest (.inl rfl)
        refine ⟨js, hValue, hHolds, fun hNone => List.forall_mem_cons.mpr ⟨?_, hNothing hNone⟩⟩
        intro found hFound
        rw [hAttempt] at hFound
        simpa using hFound
      | cons i is =>
        have hFinding : isFinding (.nodes ((i :: is).map .row)) = true := rfl
        refine ⟨i :: is, ?_, hHolds, fun hNone => by cases hNone⟩
        dsimp only
        rw [if_pos hFinding]
        split <;> rfl

theorem elementsAmong_rows (h : ∀ i ∈ found, d.isElement i) :
    elementsAmong d (found.map .row) = found := by
  rw [elementsAmong, List.filterMap_map]
  refine (List.filterMap_congr fun i hi => ?_).trans List.filterMap_some
  simp [h i hi]

/-- A query whose attempts find elements ends with what one of them finds, or with nothing if all of
them find nothing. -/
theorem elements_of_finds {P : List Nat → Prop} {path : String}
    (hBlank : Text.isBlankText path = false) (hElements : ∀ js, P js → ∀ i ∈ js, d.isElement i)
    (hFinds : ∀ c ∈ candidates (Text.trim path), Finds d spaces n P c)
    (hSome : ∃ c ∈ candidates (Text.trim path), ∃ js : List Nat,
      attempt d spaces n c = .ok (.ok (.nodes (js.map .row)))) :
    ∃ js, (elements d spaces n path).value = .ok js ∧ (js = [] ∨ P js) ∧
      (js = [] → ∀ c ∈ candidates (Text.trim path), ∀ found : List Nat,
        attempt d spaces n c = .ok (.ok (.nodes (found.map .row))) → found = []) := by
  obtain ⟨js, hValue, hHolds, hNothing⟩ :=
    search_of_finds path none false hFinds (.inr hSome)
  have hFind : (find d spaces n path).value =
      .ok (if js = [] then none else some (.nodes (js.map .row))) := by
    rw [find, hBlank, if_neg Bool.false_ne_true]
    exact hValue
  refine ⟨js, ?_, hHolds, hNothing⟩
  unfold elements
  rw [Logged.value_bind, hFind]
  cases js with
  | nil => rfl
  | cons i is =>
    have hSome := hHolds.resolve_left (List.cons_ne_nil i is)
    exact congrArg Except.ok (elementsAmong_rows (hElements _ hSome))

/-- A query finds all there is if none of its attempts can find anything else. -/
theorem elements_of_attains {path : String} (hBlank : Text.isBlankText path = false)
    (hElements : ∀ i ∈ found, d.isElement i)
    (hAttains : ∀ c ∈ candidates (Text.trim path), Attains d spaces n found c)
    (hAll : ∃ c ∈ candidates (Text.trim path),
      attempt d spaces n c = .ok (.ok (.nodes (found.map .row)))) :
    (elements d spaces n path).value = .ok found := by
  have hFinds : ∀ c ∈ candidates (Text.trim path), Finds d spaces n (· = found) c := by
    intro c hc
    obtain ⟨x, hAttempt, hReaches⟩ := hAttains c hc
    refine ⟨x, hAttempt, ?_⟩
    cases hReaches with
    | failed e h => exact .inl ⟨e, h⟩
    | nothing h => exact .inr ⟨[], h, .inl rfl⟩
    | all h => exact .inr ⟨found, h, .inr rfl⟩
  obtain ⟨c, hc, hExact⟩ := hAll
  obtain ⟨js, hValue, hHolds, hNothing⟩ := elements_of_finds hBlank
    (fun js hSame => by rwa [hSame]) hFinds ⟨c, hc, found, hExact⟩
  rcases hHolds with rfl | rfl
  · rw [hValue, hNothing rfl c hc found hExact]
  · exact hValue

end Attempts

section NamePaths

variable {d : Document} {spaces : Spaces} {form : StepForm}

theorem isChar_of_mem_render {render : NameTest → List Char} {p : NamePath}
    (h : ∀ t, ∀ c ∈ render t, isChar c) : ∀ c ∈ p.render render, isChar c := by
  intro c hc
  rcases NamePath.mem_render hc with rfl | ⟨t, hc⟩
  · decide
  · exact h t c hc

theorem isChar_of_mem_written {t : NameTest} : ∀ c ∈ t.written, isChar c := by
  intro c hc
  rcases NameTest.mem_written hc with rfl | hc
  · decide
  · exact isChar_of_isPlainChar hc

theorem isChar_of_mem_byLocalName {t : NameTest} : ∀ c ∈ t.byLocalName, isChar c := by
  have hBegins : ∀ c ∈ "*[local-name()='".toList, isChar c := List.all_eq_true.mp (by decide)
  have hEnds : ∀ c ∈ "']".toList, isChar c := List.all_eq_true.mp (by decide)
  intro c hc
  unfold NameTest.byLocalName at hc
  generalize "*[local-name()='".toList = begins at hc hBegins
  generalize "']".toList = ends at hc hEnds
  rw [List.mem_append, List.mem_append] at hc
  rcases hc with (hc | hc) | hc
  · exact hBegins c hc
  · exact isChar_of_isPlainChar (t.name.isPlainChar_of_mem hc)
  · exact hEnds c hc

/-- An attempt at a path of names is an evaluation of its steps. -/
theorem attempt_render (hSpaces : IsUsable spaces) (hChars : ∀ t, ∀ c ∈ form.render t, isChar c)
    (p : NamePath) (i : Nat) :
    attempt d spaces (.row i) (String.ofList (p.render form.render)) =
      .ok (((form.expr p).eval d spaces { node := .row i }).map withoutDocument) := by
  have hAll : (String.ofList (p.render form.render)).toList.all isChar := by
    rw [String.toList_ofList, List.all_eq_true]
    exact isChar_of_mem_render hChars
  unfold attempt
  rw [spacesFault?_eq_none hSpaces]
  dsimp only
  rw [if_pos hAll, evaluate, form.read_render]
  rfl

/-- Rows of elements are not the document itself. -/
theorem withoutDocument_rows {found : List Nat} (h : ∀ i ∈ found, d.isElement i) :
    withoutDocument (.nodes (found.map .row)) = .nodes (found.map .row) := by
  refine congrArg XPath.Value.nodes (List.filter_eq_self.mpr fun n hn => ?_)
  obtain ⟨i, hi, rfl⟩ := List.mem_map.mp hn
  rw [bne_iff_ne, ne_eq, Node.row.injEq]
  exact Nat.ne_of_gt (Document.pos_of_isElement (h i hi))

theorem attains_render (hTree : d.IsTree) (hSpaces : IsUsable spaces)
    (hChars : ∀ t, ∀ c ∈ form.render t, isChar c) (hAnswers : ∀ t, form.Answers d spaces t)
    (p : NamePath) (i : Nat) :
    Attains d spaces (.row i) (p.selection d.outline i) (String.ofList (p.render form.render)) := by
  refine ⟨_, attempt_render hSpaces hChars p i, ?_⟩
  cases form.reaches_expr hTree hAnswers p i with
  | failed e h =>
    rw [h]
    exact .failed e rfl
  | nothing h =>
    rw [h]
    exact .nothing rfl
  | all h =>
    rw [h]
    exact .all (congrArg Except.ok (withoutDocument_rows fun _ => isElement_of_mem_selection))

theorem candidates_written (p : NamePath) : Text.isBlankText p.written = false ∧
    candidates (Text.trim p.written) =
      [p.written, p.unqualified.written, p.byLocalName].eraseDups := by
  have hNoBlank : ∀ c ∈ p.render NameTest.written, Text.isBlank c = false := by
    intro c hc
    rcases NamePath.mem_render hc with rfl | ⟨t, hc⟩
    · decide
    · rcases NameTest.mem_written hc with rfl | hc
      · decide
      · exact isBlank_of_isPlainChar hc
  have hSome : ∃ c, c ∈ p.render NameTest.written := by
    obtain ⟨c, more, hText, -⟩ := written_start p.first
    exact ⟨c, by simp [NamePath.render, hText]⟩
  have hTrim : Text.trim p.written = p.written := by
    rw [Text.trim, NamePath.written, String.toList_ofList, Text.trimmed_of_noBlank hNoBlank]
  obtain ⟨c, hc⟩ := hSome
  refine ⟨Text.isBlankText_of_mem (c := c) (by simpa [NamePath.written] using hc) (hNoBlank c hc), ?_⟩
  rw [hTrim, candidates, p.unqualified_written, p.byLocalName_written]

/-- What holds of a path, without its qualifiers, and with local names instead, holds of every attempt
at it. -/
theorem forall_candidates (p : NamePath) {P : String → Prop} (hWritten : P p.written)
    (hUnqualified : P p.unqualified.written) (hLocal : P p.byLocalName) :
    ∀ c ∈ candidates (Text.trim p.written), P c := by
  intro c hc
  rw [(candidates_written p).2, List.mem_eraseDups] at hc
  simp only [List.mem_cons, List.not_mem_nil, or_false] at hc
  rcases hc with rfl | rfl | rfl
  · exact hWritten
  · exact hUnqualified
  · exact hLocal

/-- The attempt that compares local names finds all that the steps of a path select by them. -/
theorem attempt_byLocalName (hTree : d.IsTree) (hSpaces : IsUsable spaces) (p : NamePath) (i : Nat) :
    attempt d spaces (.row i) p.byLocalName =
      .ok (.ok (.nodes ((p.selection d.outline i).map .row))) := by
  have hForm : p.byLocalName = String.ofList (p.render localForm.render) := rfl
  have hChars : ∀ t, ∀ c ∈ localForm.render t, isChar c := fun _ => isChar_of_mem_byLocalName
  rw [hForm, attempt_render hSpaces hChars, localForm.eval_expr hTree localForm_keeps]
  exact congrArg (fun v => Except.ok (Except.ok v))
    (withoutDocument_rows fun _ => isElement_of_mem_selection)

/-- A path of names finds what its steps select by their local names, whatever its qualifiers stand
for. -/
theorem elements_written (hTree : d.IsTree) (hSpaces : IsUsable spaces) {space : Option String}
    (hSpace : ∀ i tag, d.kind i = .element tag → tag.name.space = space) (p : NamePath) (i : Nat) :
    (elements d spaces (.row i) p.written).value = .ok (p.selection d.outline i) := by
  obtain ⟨hBlank, hCandidates⟩ := candidates_written p
  have hQualified : ∀ q : NamePath,
      Attains d spaces (.row i) (q.selection d.outline i) q.written := fun q =>
    attains_render hTree hSpaces (fun _ => isChar_of_mem_written) (qualifiedForm_answers hSpace) q i
  have hLocal := attempt_byLocalName hTree hSpaces p i
  refine elements_of_attains hBlank (fun _ => isElement_of_mem_selection) ?_
    ⟨p.byLocalName, by simp [hCandidates], hLocal⟩
  refine forall_candidates p (hQualified p) ?_ ⟨_, hLocal, .all rfl⟩
  exact p.selection_unqualified d.outline i ▸ hQualified p.unqualified

end NamePaths

/-- A document as queries come to it: it was read from bytes, its elements are all in one namespace or
all in none, and if it has a default namespace, `q` can stand for it. -/
structure IsQueried (q : String) (d : Document) : Prop where
  isRead : ∃ bytes, Document.ofBytes? bytes = some d
  isUniform : ∃ space : Option String, ∀ i tag, d.kind i = .element tag → tag.name.space = space
  isUsable : IsNonemptyText q ∨ defaultSpace? (declarations d) = none

theorem isQueried_ofParts {p : Parts} {q : String} (bytes : List UInt8) (space : Option String)
    (hRead : Document.ofBytes? bytes = some (.ofParts p))
    (hSpace : ∀ tag ∈ Content.tagsOf (p.before ++ .element p.tag p.children :: p.behind),
      tag.name.space = space)
    (hUsable : IsNonemptyText q ∨ defaultSpace? (declarations (.ofParts p)) = none) :
    IsQueried q (.ofParts p) := by
  refine ⟨⟨bytes, hRead⟩, ⟨space, fun i tag hTag => ?_⟩, hUsable⟩
  exact hSpace tag (Document.mem_tagsOf_of_ofParts (Document.tag?_eq_some.mpr hTag))

/-- A path of names finds the elements that its steps select by their local names, in document order,
with the namespaces of the document itself. Other qualifiers, in the path or in the document, change
nothing. -/
theorem elements_namePath {q : String} {d : Document} (h : IsQueried q d) (p : NamePath) (i : Nat) :
    (elements d (spacesOf q d) (.row i) p.written).value = .ok (p.selection d.outline i) ∧
      ∀ {q' : String} {d' : Document} {p' : NamePath}, IsQueried q' d' → d'.outline = d.outline →
        p'.unqualified = p.unqualified →
        (elements d' (spacesOf q' d') (.row i) p'.written).value =
          (elements d (spacesOf q d) (.row i) p.written).value := by
  have hFinds : ∀ {q : String} {d : Document} (p : NamePath), IsQueried q d →
      (elements d (spacesOf q d) (.row i) p.written).value = .ok (p.selection d.outline i) := by
    rintro q d p ⟨⟨bytes, hRead⟩, ⟨space, hSpace⟩, hUsable⟩
    have hSpaces := spacesOf_isUsable (fun _ _ hTag => Document.ofBytes?_isUsable hRead hTag) hUsable
    exact elements_written (Document.ofBytes?_isTree hRead) hSpaces hSpace p i
  refine ⟨hFinds p h, fun {q' d' p'} h' hOutline hBare => ?_⟩
  rw [hFinds p h, hFinds p' h', hOutline, ← p.selection_unqualified, ← p'.selection_unqualified,
    hBare]

/-- The bytes of a text in ASCII. -/
def asciiBytes (s : String) : List UInt8 := s.toList.map fun c => c.toNat.toUInt8

/-- The path `/z:a//b`. -/
def strayPath : NamePath where
  origin := .top
  first := ⟨some ⟨'z', [], rfl, nofun⟩, ⟨'a', [], rfl, nofun⟩⟩
  rest := [(.double, ⟨none, ⟨'b', [], rfl, nofun⟩⟩)]

/-- An element within another one, with the same qualifier. -/
def nestedParts (ds : List Declaration) (space qualifier : Option String) : Parts where
  before := []
  tag := ⟨⟨space, qualifier, "a"⟩, [], ds⟩
  children := [.element ⟨⟨space, qualifier, "b"⟩, [], []⟩ []]
  behind := []

/-- The document `<p:a xmlns:p='u'><p:b/></p:a>`. -/
def qualifiedDocument : Document := .ofParts (nestedParts [⟨some "p", "u"⟩] (some "u") (some "p"))

/-- The document `<a><b/></a>`. -/
def plainDocument : Document := .ofParts (nestedParts [] none none)

/-- A path with a qualifier that the document does not declare, and the same path and the same document
without qualifiers. -/
theorem elements_namePath_strayQualifier :
    strayPath.written = "/z:a//b" ∧
      IsQueried "default" qualifiedDocument ∧ IsQueried "default" plainDocument ∧
      (elements qualifiedDocument (spacesOf "default" qualifiedDocument) (.row 0)
        strayPath.written).value = .ok [2] ∧
      (elements plainDocument (spacesOf "default" plainDocument) (.row 0)
        strayPath.unqualified.written).value = .ok [2] := by
  have hQualified : IsQueried "default" qualifiedDocument :=
    isQueried_ofParts (asciiBytes "<p:a xmlns:p='u'><p:b/></p:a>") (some "u")
      (Document.ofBytes?_eq_of_rows (by decide +kernel)) (by decide) (.inr (by decide +kernel))
  have hPlain : IsQueried "default" plainDocument :=
    isQueried_ofParts (asciiBytes "<a><b/></a>") none
      (Document.ofBytes?_eq_of_rows (by decide +kernel)) (by decide) (.inr (by decide +kernel))
  obtain ⟨hFinds, hSame⟩ := elements_namePath hQualified strayPath 0
  have hFound : strayPath.selection qualifiedDocument.outline 0 = [2] := by decide +kernel
  have hOutline : plainDocument.outline = qualifiedDocument.outline := by decide +kernel
  have hBare : strayPath.unqualified.unqualified = strayPath.unqualified := rfl
  have hPlainFinds := hSame hPlain hOutline hBare
  rw [hFound] at hFinds
  rw [hFinds] at hPlainFinds
  exact ⟨by decide, hQualified, hPlain, hFinds, hPlainFinds⟩

/-- The document `<a xmlns='u'/>`. -/
def defaultDocument : Document := .ofParts ⟨[], ⟨⟨some "u", none, "a"⟩, [], [⟨none, "u"⟩]⟩, [], []⟩

/-- Without a qualifier that can stand for it, a default namespace brings every query to a fault. -/
theorem elements_emptyQualifier :
    Document.ofBytes? (asciiBytes "<a xmlns='u'/>") = some defaultDocument ∧
      (elements defaultDocument (spacesOf "" defaultDocument) (.row 0) "/a").value =
        .error (.fault .emptyQualifier) :=
  ⟨Document.ofBytes?_eq_of_rows (by decide +kernel), by decide +kernel⟩

end Intake.Query
