import Intake.Proofs.Query.NamePaths
import Intake.Proofs.Query.Repeating
import Intake.Proofs.XPath.Narrowing

/-! The lines that are discovered where no path of their own leads to any. The conventional paths come
to three pairs of local names, whatever namespaces a document mixes and whatever its qualifiers stand
for: the path without qualifiers is tried before the other two of its pair, and its last attempt, which
compares local names, finds all elements of the pair. So the first pair that occurs in a document
decides; if none does, the first repeating element is taken. -/

namespace Intake.Query

open Xml XPath Intake.Path

section Written

variable {d : Document} {spaces : Spaces} {form : StepForm}

/-- An attempt whose steps keep elements of their local names finds some that a path selects. -/
theorem finds_render (hTree : d.IsTree) (hSpaces : IsUsable spaces)
    (hChars : ∀ t, ∀ c ∈ form.render t, isChar c) (hNarrows : ∀ t, form.Narrows d spaces t)
    (p : NamePath) (i : Nat) :
    Finds d spaces (.row i) (fun js => ∀ j ∈ js, j ∈ p.selection d.outline i)
      (String.ofList (p.render form.render)) := by
  refine ⟨_, attempt_render hSpaces hChars p i, ?_⟩
  cases form.within_expr hTree hNarrows p i with
  | failed e h =>
    rw [h]
    exact .inl ⟨e, rfl⟩
  | some js hSome h =>
    rw [h]
    refine .inr ⟨js, congrArg Except.ok ?_, .inr hSome⟩
    exact withoutDocument_rows fun j hj => isElement_of_mem_selection (hSome j hj)

/-- A path of names finds some of the elements that its steps select by their local names, and some
unless there are none. -/
theorem elements_written_some (hTree : d.IsTree) (hSpaces : IsUsable spaces) (p : NamePath)
    (i : Nat) : ∃ js, (elements d spaces (.row i) p.written).value = .ok js ∧
      (∀ j ∈ js, j ∈ p.selection d.outline i) ∧ (js = [] → p.selection d.outline i = []) := by
  obtain ⟨hBlank, hCandidates⟩ := candidates_written p
  have hLocal := attempt_byLocalName hTree hSpaces p i
  have hQualified : ∀ q : NamePath,
      Finds d spaces (.row i) (fun js => ∀ j ∈ js, j ∈ q.selection d.outline i) q.written := fun q =>
    finds_render hTree hSpaces (fun _ => isChar_of_mem_written) qualifiedForm_narrows q i
  have hFinds : ∀ c ∈ candidates (Text.trim p.written),
      Finds d spaces (.row i) (fun js => ∀ j ∈ js, j ∈ p.selection d.outline i) c := by
    refine forall_candidates p (hQualified p) ?_ ⟨_, hLocal, .inr ⟨_, rfl, .inr fun _ hj => hj⟩⟩
    exact p.selection_unqualified d.outline i ▸ hQualified p.unqualified
  have hLast : p.byLocalName ∈ candidates (Text.trim p.written) := by simp [hCandidates]
  obtain ⟨js, hValue, hHolds, hNothing⟩ := elements_of_finds hBlank
    (fun js hSome j hj => isElement_of_mem_selection (hSome j hj)) hFinds
    ⟨p.byLocalName, hLast, _, hLocal⟩
  refine ⟨js, hValue, ?_, fun hNone => hNothing hNone p.byLocalName hLast _ hLocal⟩
  rcases hHolds with rfl | hSome
  · exact fun j hj => nomatch hj
  · exact hSome

/-- A path whose one attempt compares local names finds all elements that are selected. -/
theorem elements_byLocalName (hTree : d.IsTree) (hSpaces : IsUsable spaces) {p : NamePath}
    (hBlank : Text.isBlankText p.byLocalName = false)
    (hCandidates : candidates (Text.trim p.byLocalName) = [p.byLocalName]) (i : Nat) :
    (elements d spaces (.row i) p.byLocalName).value = .ok (p.selection d.outline i) := by
  have hLocal := attempt_byLocalName hTree hSpaces p i
  refine elements_of_attains hBlank (fun _ => isElement_of_mem_selection) (fun c hc => ?_)
    ⟨p.byLocalName, by simp [hCandidates], hLocal⟩
  rw [hCandidates] at hc
  obtain rfl := List.mem_singleton.mp hc
  exact ⟨_, hLocal, .all rfl⟩

end Written

/-- The names of an element and of the lines in it. -/
structure LinePair where
  holder : PlainName
  item : PlainName

namespace LinePair

/-- The path to the lines, wherever they stand in a document. -/
def path (pair : LinePair) (qualifier : Option PlainName) : NamePath where
  origin := .anywhere
  first := ⟨qualifier, pair.holder⟩
  rest := [(.single, ⟨qualifier, pair.item⟩)]

/-- The qualifier that conventional paths mention. -/
def qualifier : PlainName := ⟨'t', ['n', 's'], rfl, List.all_eq_true.mp (by decide)⟩

/-- The conventional paths to the lines. -/
def paths (pair : LinePair) : List String :=
  [(pair.path none).written, (pair.path (some qualifier)).written, (pair.path none).byLocalName]

/-- The pairs of the conventional paths. -/
def all : List LinePair :=
  [⟨⟨'I', "tems".toList, rfl, List.all_eq_true.mp (by decide)⟩,
      ⟨'I', "tem".toList, rfl, List.all_eq_true.mp (by decide)⟩⟩,
    ⟨⟨'L', "ines".toList, rfl, List.all_eq_true.mp (by decide)⟩,
      ⟨'L', "ine".toList, rfl, List.all_eq_true.mp (by decide)⟩⟩,
    ⟨⟨'D', "etails".toList, rfl, List.all_eq_true.mp (by decide)⟩,
      ⟨'D', "etail".toList, rfl, List.all_eq_true.mp (by decide)⟩⟩]

theorem conventionalLinePaths_eq : conventionalLinePaths = all.flatMap paths := by decide +kernel

/-- A path that compares local names is left as it is by the other attempts. -/
theorem candidates_byLocalName : ∀ pair ∈ all,
    Text.isBlankText (pair.path none).byLocalName = false ∧
      candidates (Text.trim (pair.path none).byLocalName) = [(pair.path none).byLocalName] := by
  decide +kernel

/-- The two names. -/
def texts (pair : LinePair) : String × String := (pair.holder.text, pair.item.text)

end LinePair

/-- The pairs of local names by which lines are conventionally known: of the element around them, and
of the lines. -/
def conventionalPairs : List (String × String) :=
  [("Items", "Item"), ("Lines", "Line"), ("Details", "Detail")]

/-- The path that mentions a pair without qualifiers. -/
def pairPath (pair : String × String) : String := "//" ++ pair.1 ++ "/" ++ pair.2

theorem LinePair.texts_all : all.map texts = conventionalPairs := by decide

theorem LinePair.written_path : ∀ pair ∈ all, (pair.path none).written = pairPath pair.texts := by
  decide

/-- An element of one local name in an element of another one. -/
def Occurs (d : Document) (pair : String × String) (j : Nat) : Prop :=
  Bears d pair.2 j ∧ Bears d pair.1 (d.parent j)

section Pairs

variable {d : Document} {spaces : Spaces} {i j : Nat}

theorem isNamed_iff_bears {name : String} : isNamed d name j ↔ Bears d name j := by
  rw [isNamed_iff, Bears, Document.isElement_iff, Document.localName]
  constructor
  · rintro ⟨tag, hTag, hName⟩
    rw [Document.tag?_eq_some.mpr hTag]
    exact ⟨⟨tag, hTag⟩, hName⟩
  · rintro ⟨⟨tag, hTag⟩, hName⟩
    rw [Document.tag?_eq_some.mpr hTag] at hName
    exact ⟨tag, hTag, hName⟩

/-- The path of a pair selects the elements in which the pair occurs. -/
theorem mem_selection_iff {pair : LinePair} {qualifier : Option PlainName} :
    j ∈ (pair.path qualifier).selection d.outline i ↔ Occurs d pair.texts j := by
  have hSteps : (pair.path qualifier).selection d.outline i =
      d.outline.step (d.outline.step [0] .double pair.holder.text) .single pair.item.text := rfl
  rw [hSteps, step_eq, List.mem_filter, List.mem_range, Bool.and_eq_true, isNamed_iff_bears,
    List.any_eq_true]
  constructor
  · rintro ⟨hSize, hItem, k, hk, hLeads⟩
    obtain ⟨-, rfl⟩ := (leads_single hSize).mp hLeads
    rw [step_eq, List.mem_filter, Bool.and_eq_true, isNamed_iff_bears] at hk
    exact ⟨hItem, hk.2.1⟩
  · rintro ⟨hItem, hHolder⟩
    have hSize := Document.lt_size_of_isElement hItem.1
    refine ⟨hSize, hItem, d.parent j, ?_, ?_⟩
    · rw [step_eq, List.mem_filter, List.mem_range, Bool.and_eq_true, isNamed_iff_bears]
      refine ⟨Document.lt_size_of_isElement hHolder.1, hHolder, ?_⟩
      have hPos := Document.pos_of_isElement hHolder.1
      have hLeads : d.outline.leads .double 0 (d.parent j) := by
        rw [leads_double, Document.stop_zero]
        exact ⟨hPos, Document.lt_size_of_isElement hHolder.1⟩
      simpa using hLeads
    · exact (leads_single hSize).mpr ⟨Document.pos_of_isElement hItem.1, rfl⟩

theorem not_occurs_of_selection {pair : LinePair} {qualifier : Option PlainName}
    (h : (pair.path qualifier).selection d.outline i = []) (j : Nat) : ¬Occurs d pair.texts j := by
  rw [← mem_selection_iff, h]
  exact List.not_mem_nil

/-- A path finds some of the elements in which a pair occurs, and some unless there are none. -/
def FindsPair (d : Document) (spaces : Spaces) (i : Nat) (pair : String × String) (path : String) :
    Prop :=
  ∃ js, (elements d spaces (.row i) path).value = .ok js ∧
    (∀ j ∈ js, Occurs d pair j) ∧ (js = [] → ∀ j, ¬Occurs d pair j)

/-- Each conventional path finds elements of its pair. -/
theorem findsPair_conventional (hTree : d.IsTree) (hSpaces : IsUsable spaces) (i : Nat)
    {pair : LinePair} (hPair : pair ∈ LinePair.all) {path : String} (hPath : path ∈ pair.paths) :
    FindsPair d spaces i pair.texts path := by
  have hWritten : ∀ qualifier, FindsPair d spaces i pair.texts (pair.path qualifier).written := by
    intro qualifier
    obtain ⟨js, hValue, hSome, hNone⟩ :=
      elements_written_some hTree hSpaces (pair.path qualifier) i
    refine ⟨js, hValue, fun j hj => mem_selection_iff.mp (hSome j hj), fun hNil => ?_⟩
    exact not_occurs_of_selection (hNone hNil)
  rcases List.mem_cons.mp hPath with rfl | hPath
  · exact hWritten none
  rcases List.mem_cons.mp hPath with rfl | hPath
  · exact hWritten (some LinePair.qualifier)
  obtain rfl := List.mem_singleton.mp hPath
  obtain ⟨hBlank, hCandidates⟩ := LinePair.candidates_byLocalName pair hPair
  exact ⟨_, elements_byLocalName hTree hSpaces hBlank hCandidates i,
    fun j hj => mem_selection_iff.mp hj, not_occurs_of_selection⟩

end Pairs

section Discovery

variable {d : Document} {spaces : Spaces} {n : Node} {i : Nat}

theorem firstPattern_found {pattern : String} {rest : List String} {j : Nat} {js : List Nat}
    (h : (elements d spaces n pattern).value = .ok (j :: js)) :
    (firstPattern d spaces n (pattern :: rest)).value = .ok (some (pattern, j :: js)) := by
  rw [firstPattern, Logged.value_bind, h]
  rfl

theorem firstPattern_passed {patterns rest : List String}
    (h : ∀ pattern ∈ patterns, (elements d spaces n pattern).value = .ok []) :
    (firstPattern d spaces n (patterns ++ rest)).value = (firstPattern d spaces n rest).value := by
  induction patterns with
  | nil => rfl
  | cons pattern patterns ih =>
    obtain ⟨hFirst, hRest⟩ := List.forall_mem_cons.mp h
    rw [List.cons_append, firstPattern, Logged.value_bind, hFirst]
    exact ih hRest

/-- What is found at the conventional paths of some pairs: elements in which the first pair occurs that
occurs in the document, at its path without qualifiers. -/
inductive PairFound (d : Document) (pairs : List (String × String)) :
    Option (String × List Nat) → Prop
  | found {before after : List (String × String)} {pair : String × String} {nodes : List Nat} :
      pairs = before ++ pair :: after → (∀ earlier ∈ before, ∀ j, ¬Occurs d earlier j) →
      nodes ≠ [] → (∀ j ∈ nodes, Occurs d pair j) →
      PairFound d pairs (some (pairPath pair, nodes))
  | nothing : (∀ pair ∈ pairs, ∀ j, ¬Occurs d pair j) → PairFound d pairs none

theorem PairFound.cons {pair : String × String} {pairs : List (String × String)}
    {found : Option (String × List Nat)} (hNone : ∀ j, ¬Occurs d pair j)
    (h : PairFound d pairs found) : PairFound d (pair :: pairs) found := by
  cases h with
  | @found before after other nodes hSplit hBefore hNodes hOccur =>
    have hSplit' : pair :: pairs = (pair :: before) ++ other :: after := by rw [hSplit]; rfl
    exact .found hSplit' (List.forall_mem_cons.mpr ⟨hNone, hBefore⟩) hNodes hOccur
  | nothing hAll => exact .nothing (List.forall_mem_cons.mpr ⟨hNone, hAll⟩)

theorem firstPattern_pairs (hTree : d.IsTree) (hSpaces : IsUsable spaces) (i : Nat)
    (pairs : List LinePair) (hPairs : ∀ pair ∈ pairs, pair ∈ LinePair.all) :
    ∃ found, (firstPattern d spaces (.row i) (pairs.flatMap LinePair.paths)).value = .ok found ∧
      PairFound d (pairs.map LinePair.texts) found := by
  induction pairs with
  | nil => exact ⟨none, rfl, .nothing fun pair hPair => nomatch hPair⟩
  | cons pair pairs ih =>
    obtain ⟨hPair, hRest⟩ := List.forall_mem_cons.mp hPairs
    have hFinds : ∀ path ∈ pair.paths, FindsPair d spaces i pair.texts path :=
      fun _ hPath => findsPair_conventional hTree hSpaces i hPair hPath
    obtain ⟨js, hValue, hOccur, hNone⟩ := hFinds _ List.mem_cons_self
    cases js with
    | cons j js =>
      refine ⟨_, firstPattern_found hValue, ?_⟩
      rw [LinePair.written_path pair hPair]
      have hFirst : (pair :: pairs).map LinePair.texts =
          [] ++ pair.texts :: pairs.map LinePair.texts := rfl
      exact .found hFirst (fun _ hMem => absurd hMem List.not_mem_nil) (by simp) hOccur
    | nil =>
      obtain ⟨found, hFound, hPairFound⟩ := ih hRest
      have hAbsent := hNone rfl
      refine ⟨found, ?_, hPairFound.cons hAbsent⟩
      rw [List.flatMap_cons, firstPattern_passed, hFound]
      intro path hPath
      obtain ⟨js, hValue, hOccur, -⟩ := hFinds path hPath
      cases js with
      | nil => exact hValue
      | cons j js => exact absurd (hOccur j List.mem_cons_self) (hAbsent j)

/-- What lines are discovered in a document. Of the conventional pairs the first counts that occurs:
there are lines, and the pair occurs in each of them. If no pair occurs, the lines are the first
repeating element, if there is one. -/
inductive Discovered (d : Document) : LineMatch → Prop
  | pattern {before after : List (String × String)} {pair : String × String} {nodes : List Nat} :
      conventionalPairs = before ++ pair :: after →
      (∀ earlier ∈ before, ∀ j, ¬Occurs d earlier j) →
      nodes ≠ [] → nodes.Pairwise (· < ·) → (∀ j ∈ nodes, Occurs d pair j) →
      Discovered d ⟨nodes, some .pattern, some (pairPath pair)⟩
  | heuristic {first : Nat} {rest : List Nat} :
      (∀ pair ∈ conventionalPairs, ∀ j, ¬Occurs d pair j) →
      repeatingElements d = first :: rest →
      Discovered d ⟨first :: rest, some .heuristic, some (d.localName first)⟩
  | nothing : (∀ pair ∈ conventionalPairs, ∀ j, ¬Occurs d pair j) → repeatingElements d = [] →
      Discovered d {}

theorem fallbackLines_discovered {s : MappingSettings} (hTree : d.IsTree)
    (hSpaces : IsUsable spaces) (hPaths : s.linePaths = conventionalLinePaths) (i : Nat)
    (parent : String) : ∃ found, (fallbackLines s d spaces (.row i) parent).value = .ok found ∧
      Discovered d found := by
  obtain ⟨found, hFound, hPairs⟩ := firstPattern_pairs hTree hSpaces i LinePair.all fun _ h => h
  rw [LinePair.texts_all] at hPairs
  rw [← LinePair.conventionalLinePaths_eq, ← hPaths] at hFound
  unfold fallbackLines
  rw [Logged.value_bind, hFound]
  cases hPairs with
  | found hSplit hBefore hNodes hOccur =>
    exact ⟨_, rfl, .pattern hSplit hBefore hNodes (firstPattern_pairwise hFound) hOccur⟩
  | nothing hNone =>
    dsimp only
    cases hRepeating : repeatingElements d with
    | nil => exact ⟨_, rfl, .nothing hNone hRepeating⟩
    | cons first rest => exact ⟨_, rfl, .heuristic hNone hRepeating⟩

/-- A query that does not fail was made with a table of namespaces that can be used. -/
theorem isUsable_of_elements {path : String} {js : List Nat}
    (h : (elements d spaces n path).value = .ok js) : IsUsable spaces := by
  rw [← spacesFault?_eq_none_iff]
  cases hFault : spacesFault? spaces with
  | none => rfl
  | some fault =>
    have hAttempt : ∀ candidate, attempt d spaces n candidate = .error fault := by
      intro candidate
      rw [attempt, hFault]
    have hCandidates : ∃ rest, candidates (Text.trim path) = Text.trim path :: rest :=
      ⟨_, List.eraseDups_cons⟩
    obtain ⟨rest, hCandidates⟩ := hCandidates
    have hFind : ∃ failure, (find d spaces n path).value = .error failure := by
      unfold find
      split
      · exact ⟨_, rfl⟩
      · rw [hCandidates, search, hAttempt]
        exact ⟨_, rfl⟩
    obtain ⟨failure, hFind⟩ := hFind
    rw [elements, Logged.value_bind, hFind] at h
    cases h

/-- Without a path of its own, or with one that leads to nothing, the lines of a document are
discovered, if the settings are the conventional ones. An empty path takes a qualifier that can stand
for the default namespace of the document, if it has one. -/
theorem findLines_discovered {s : MappingSettings} {bytes : List UInt8} {parent : String}
    (hRead : Document.ofBytes? bytes = some d) (hPaths : s.linePaths = conventionalLinePaths)
    (hFallback : s.discoversLines = true) (i : Nat)
    (hParent : parent = "" ∧
        (IsNonemptyText s.defaultQualifier ∨ defaultSpace? (declarations d) = none) ∨
      (elements d (spacesOf s.defaultQualifier d) (.row i) parent).value = .ok []) :
    ∃ found,
      (findLines s d (spacesOf s.defaultQualifier d) (.row i) parent).value = .ok found ∧
        Discovered d found := by
  have hTree := Document.ofBytes?_isTree hRead
  have hSpaces : IsUsable (spacesOf s.defaultQualifier d) := by
    rcases hParent with ⟨-, hUsable⟩ | hNothing
    · exact spacesOf_isUsable (fun _ _ hTag => Document.ofBytes?_isUsable hRead hTag) hUsable
    · exact isUsable_of_elements hNothing
  obtain ⟨found, hFound, hDiscovered⟩ :=
    fallbackLines_discovered hTree hSpaces hPaths i parent
  refine ⟨found, ?_, hDiscovered⟩
  have hConfigured : ((if parent.isEmpty then pure (.ok [])
      else elements d (spacesOf s.defaultQualifier d) (.row i) parent) :
        Logged (Except Failure (List Nat))).value = .ok [] := by
    rcases hParent with ⟨rfl, -⟩ | hNothing
    · rfl
    · split
      · rfl
      · exact hNothing
  rw [findLines_eq, Logged.value_bind, hConfigured]
  dsimp only
  rw [if_pos hFallback]
  exact hFound

/-- The document `<p:Items xmlns:p='u'><Item/></p:Items>`. -/
def itemsDocument : Document :=
  .ofParts ⟨[], ⟨⟨some "u", some "p", "Items"⟩, [], [⟨some "p", "u"⟩]⟩,
    [.element ⟨⟨none, none, "Item"⟩, [], []⟩ []], []⟩

/-- The lines of a document that mixes namespaces are discovered by their pair. -/
theorem findLines_discovered_mixed :
    Document.ofBytes? (asciiBytes "<p:Items xmlns:p='u'><Item/></p:Items>") = some itemsDocument ∧
      ∃ found, (findLines {} itemsDocument (spacesOf "default" itemsDocument) (.row 0) "").value =
          .ok found ∧ Discovered itemsDocument found ∧ found.discovery = some .pattern := by
  have hRead : Document.ofBytes? (asciiBytes "<p:Items xmlns:p='u'><Item/></p:Items>") =
      some itemsDocument := Document.ofBytes?_eq_of_rows (by decide +kernel)
  have hUsable : defaultSpace? (declarations itemsDocument) = none := by decide +kernel
  obtain ⟨found, hFound, hDiscovered⟩ := findLines_discovered (s := {}) hRead rfl rfl 0
    (.inl ⟨rfl, .inr hUsable⟩)
  have hOccurs : Occurs itemsDocument ("Items", "Item") 2 :=
    ⟨⟨by decide +kernel, by decide +kernel⟩, by decide +kernel, by decide +kernel⟩
  refine ⟨hRead, found, hFound, hDiscovered, ?_⟩
  cases hDiscovered with
  | pattern => rfl
  | heuristic hNone => exact absurd hOccurs (hNone _ List.mem_cons_self 2)
  | nothing hNone => exact absurd hOccurs (hNone _ List.mem_cons_self 2)

/-- A default namespace without a qualifier that can stand for it lets no line be discovered. -/
theorem findLines_emptyQualifier :
    let s : MappingSettings := { defaultQualifier := "" }
    Document.ofBytes? (asciiBytes "<a xmlns='u'/>") = some defaultDocument ∧
      s.linePaths = conventionalLinePaths ∧ s.discoversLines = true ∧
      (findLines s defaultDocument (spacesOf s.defaultQualifier defaultDocument) (.row 0) "").value =
        .error (.fault .emptyQualifier) :=
  ⟨Document.ofBytes?_eq_of_rows (by decide +kernel), rfl, rfl, by decide +kernel⟩

end Discovery

end Intake.Query
