import Intake.Proofs.Xml.Nesting

/-! The tags of a document. What holds of every start tag, whatever stands around it, holds of the tag
of every element of a document that is read. -/

namespace Intake.Xml

mutual

/-- The tags in a piece of content. -/
def Content.tags : Content → List Tag
  | .element tag children => tag :: tagsOf children
  | .text _ => []
  | .comment _ => []
  | .instruction _ _ => []
  | .reference _ => []

/-- The tags in pieces of content. -/
def Content.tagsOf : List Content → List Tag
  | [] => []
  | c :: rest => c.tags ++ tagsOf rest

end

/-- All tags in a piece of content satisfy `P`. -/
def Content.Holds (P : Tag → Prop) (c : Content) : Prop := ∀ tag ∈ c.tags, P tag

section Content

variable {P : Tag → Prop} {cs : List Content} {tag : Tag}

theorem mem_tagsOf : tag ∈ Content.tagsOf cs ↔ ∃ c ∈ cs, tag ∈ c.tags := by
  induction cs with
  | nil => simp [Content.tagsOf]
  | cons c rest ih => simp [Content.tagsOf, ih]

theorem holds_leaf {c : Content} (h : c.tags = []) : c.Holds P := by
  intro tag hTag
  rw [h] at hTag
  cases hTag

theorem holds_element (hTag : P tag) (hChildren : ∀ c ∈ cs, c.Holds P) :
    (Content.element tag cs).Holds P := by
  intro other hOther
  rw [Content.tags, List.mem_cons, mem_tagsOf] at hOther
  rcases hOther with rfl | ⟨c, hc, hMem⟩
  · exact hTag
  · exact hChildren c hc other hMem

theorem holds_addText (h : ∀ c ∈ cs, c.Holds P) (s : List Char) :
    ∀ c ∈ Content.addText s cs, c.Holds P := by
  have hText : ∀ t, (Content.text t).Holds P := fun t => holds_leaf rfl
  fun_cases Content.addText s cs with
  | case1 t rest =>
    exact List.forall_mem_cons.mpr ⟨hText _, fun c hc => h c (List.mem_cons_of_mem _ hc)⟩
  | case2 => exact h
  | case3 => exact List.forall_mem_cons.mpr ⟨hText _, h⟩

end Content

mutual

theorem Content.mem_tags_of_rows {parent start : Nat} {c : Content} {r : Row} {tag : Tag}
    (hRow : r ∈ c.rows parent start) (hTag : r.kind = .element tag) : tag ∈ c.tags := by
  cases c with
  | element other children =>
    rw [Content.rows] at hRow
    rw [Content.tags]
    rcases List.mem_cons.mp hRow with rfl | hRow
    · cases hTag
      exact List.mem_cons_self
    · exact List.mem_cons_of_mem _ (Content.mem_tagsOf_of_rows hRow hTag)
  | _ =>
    obtain rfl := List.mem_singleton.mp hRow
    cases hTag

theorem Content.mem_tagsOf_of_rows {parent start : Nat} {cs : List Content} {r : Row} {tag : Tag}
    (hRow : r ∈ Content.rowsOf parent start cs) (hTag : r.kind = .element tag) :
    tag ∈ Content.tagsOf cs := by
  cases cs with
  | nil => cases hRow
  | cons c rest =>
    rw [Content.rowsOf] at hRow
    rw [Content.tagsOf, List.mem_append]
    exact (List.mem_append.mp hRow).imp (Content.mem_tags_of_rows · hTag)
      (Content.mem_tagsOf_of_rows · hTag)

end

section Reading

variable {P : Tag → Prop} {r : ReadingRules}

/-- Every start tag that is read by some rules satisfies `P`. -/
def ReadingRules.Yields (r : ReadingRules) (P : Tag → Prop) : Prop :=
  ∀ {scope inner spent spent' s rest name tag ending},
    r.startTag? scope spent s = some ((name, tag, inner, ending), spent', rest) → P tag

/-- The content that is read has only such tags, also where it is nested; the text of an entity leaves
none of its own. -/
theorem contentFrom?_holds (hTags : r.Yields P)
    {inside : Scope → Nat → Nat → List Char → Option (List Content × Nat × List Char)}
    {fuel depth spent spent' : Nat} {scope : Scope} {taken pieces : List Content} {s rest : List Char}
    (hTaken : ∀ c ∈ taken, c.Holds P)
    (h : r.contentFrom? inside fuel scope depth spent taken s = some (pieces, spent', rest)) :
    ∀ c ∈ pieces, c.Holds P := by
  fun_induction ReadingRules.contentFrom? generalizing pieces spent' rest with
  | case2 | case3 =>
    cases h
    simpa using hTaken
  | case4 | case8 | case20 | case22 | case24 =>
    rename_i ih
    exact ih (List.forall_mem_cons.mpr ⟨holds_leaf rfl, hTaken⟩) h
  | case6 | case16 | case19 | case26 =>
    rename_i ih
    exact ih (holds_addText hTaken _) h
  | case12 =>
    rename_i hStart ih
    exact ih (List.forall_mem_cons.mpr ⟨holds_element (hTags hStart) (by simp), hTaken⟩) h
  | case13 =>
    rename_i hStart _ _ _ hChildren _ hClose ihChildren ih
    have hInner := ihChildren (by simp) hChildren
    exact ih (List.forall_mem_cons.mpr ⟨holds_element (hTags hStart) hInner, hTaken⟩) h
  | _ => cases h

theorem content?_holds (hTags : r.Yields P) {levels depth spent spent' : Nat} {scope : Scope}
    {pieces : List Content} {s rest : List Char}
    (h : r.content? levels scope depth spent s = some (pieces, spent', rest)) :
    ∀ c ∈ pieces, c.Holds P := by
  cases levels with
  | zero => exact contentFrom?_holds hTags (by simp) h
  | succ levels => exact contentFrom?_holds hTags (by simp) h

/-- Outside of the one element there are no tags. -/
theorem outside?_holds {taken pieces : List Content} {fuel : Nat} {s rest : List Char}
    (hTaken : ∀ c ∈ taken, c.Holds P) (h : outside? taken fuel s = some (pieces, rest)) :
    ∀ c ∈ pieces, c.Holds P := by
  fun_induction outside? taken fuel s with
  | case1 | case6 =>
    cases h
    exact hTaken
  | case2 | case4 =>
    rename_i ih
    exact ih (List.forall_mem_cons.mpr ⟨holds_leaf rfl, hTaken⟩) h
  | case3 | case5 => cases h

/-- Only the one element of a document has tags, and all of them satisfy `P`. -/
structure Parts.Holds (P : Tag → Prop) (p : Parts) : Prop where
  before : ∀ c ∈ p.before, c.tags = []
  element : (Content.element p.tag p.children).Holds P
  behind : ∀ c ∈ p.behind, c.tags = []

/-- There are no tags where all of them would satisfy what none does. -/
theorem tags_eq_nil {taken pieces : List Content} {fuel : Nat} {s rest : List Char}
    (hTaken : ∀ c ∈ taken, c.tags = []) (h : outside? taken fuel s = some (pieces, rest)) :
    ∀ c ∈ pieces.reverse, c.tags = [] := by
  intro c hc
  have hNone : c.Holds fun _ => False :=
    outside?_holds (fun c hc => holds_leaf (hTaken c hc)) h c (List.mem_reverse.mp hc)
  exact List.eq_nil_iff_forall_not_mem.mpr hNone

/-- A document that is read has only tags that the rules of its document type yield. -/
theorem Parts.read?_holds {s : List Char} {p : Parts}
    (hTags : ∀ {doctype s rest}, doctypeOf? s = some (doctype, rest) →
      ∀ entities, (ReadingRules.mk entities doctype.attributes).Yields P)
    (h : Parts.read? s = some p) : p.Holds P := by
  obtain ⟨⟨heading, behind₁⟩, -, h⟩ := Option.bind_eq_some_iff.mp h
  obtain ⟨⟨before, behind₂⟩, hBefore, h⟩ := Option.bind_eq_some_iff.mp h
  obtain ⟨⟨doctype, behind₃⟩, hDoctype, h⟩ := Option.bind_eq_some_iff.mp h
  obtain ⟨⟨before', behind₄⟩, hBefore', h⟩ := Option.bind_eq_some_iff.mp h
  obtain ⟨behind₅, -, h⟩ := Option.bind_eq_some_iff.mp h
  obtain ⟨⟨⟨name, tag, scope, ending⟩, spent, behind₆⟩, hStart, h⟩ :=
    Option.bind_eq_some_iff.mp h
  have hEarly : ∀ c ∈ before, c.tags = [] := by
    intro c hc
    exact tags_eq_nil (by simp) hBefore c (List.mem_reverse.mpr hc)
  have hAbove := tags_eq_nil hEarly hBefore'
  have hTag := hTags hDoctype _ hStart
  dsimp only at h
  split at h
  · obtain ⟨⟨children, behind₇⟩, hClosed, h⟩ := Option.bind_eq_some_iff.mp h
    cases hClosed
    obtain ⟨⟨behind, rest⟩, hBehind, h⟩ := Option.bind_eq_some_iff.mp h
    dsimp only at h
    split at h <;> cases h
    exact ⟨hAbove, holds_element hTag (by simp), tags_eq_nil (by simp) hBehind⟩
  · split at h
    · rename_i children _ inside hContent
      obtain ⟨⟨children', behind₇⟩, hClosed, h⟩ := Option.bind_eq_some_iff.mp h
      obtain ⟨behind₈, -, hSame⟩ := Option.map_eq_some_iff.mp hClosed
      cases hSame
      obtain ⟨⟨behind, rest⟩, hBehind, h⟩ := Option.bind_eq_some_iff.mp h
      have hInner := content?_holds (hTags hDoctype _) hContent
      dsimp only at h
      split at h <;> cases h
      exact ⟨hAbove, holds_element hTag hInner, tags_eq_nil (by simp) hBehind⟩
    · cases h

end Reading

namespace Document

theorem tag?_eq_some {d : Document} {i : Nat} {tag : Tag} :
    d.tag? i = some tag ↔ d.kind i = .element tag := by
  unfold tag?
  cases d.kind i <;> simp

/-- The tags of a document are those of its parts. -/
theorem mem_tagsOf_of_ofParts {p : Parts} {i : Nat} {tag : Tag}
    (h : (ofParts p).tag? i = some tag) :
    tag ∈ Content.tagsOf (p.before ++ .element p.tag p.children :: p.behind) := by
  rw [tag?_eq_some] at h
  have hRow : (ofParts p).row i ∈ (ofParts p).rows.toList :=
    List.mem_of_getElem? ((ofParts p).row_of_lt (lt_size_of_kind h))
  rcases List.mem_cons.mp hRow with hFirst | hInner
  · rw [kind, hFirst] at h
    cases h
  · exact Content.mem_tagsOf_of_rows hInner h

/-- What holds of the tags of the parts holds of those of the document. -/
theorem holds_tag? {P : Tag → Prop} {p : Parts} (hParts : p.Holds P) {i : Nat} {tag : Tag}
    (h : (ofParts p).tag? i = some tag) : P tag := by
  obtain ⟨c, hc, hTag⟩ := mem_tagsOf.mp (mem_tagsOf_of_ofParts h)
  rcases List.mem_append.mp hc with hc | hc
  · rw [hParts.before c hc] at hTag
    cases hTag
  · rcases List.mem_cons.mp hc with rfl | hc
    · exact hParts.element tag hTag
    · rw [hParts.behind c hc] at hTag
      cases hTag

end Document

end Intake.Xml
