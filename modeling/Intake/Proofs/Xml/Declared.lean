import Intake.Proofs.Xml.Characters
import Intake.Proofs.Xml.Tags

/-! The namespaces that a document declares. Whatever its bytes are, a document that can be read has
no declaration with an empty qualifier, and an empty namespace only as the default one. No qualifier
is declared twice in one tag, and the qualifier `xml`, which needs no declaration, is never kept as
one. -/

namespace Intake.Xml

/-- A declaration of texts, empty only where it takes a default namespace back. -/
def Declaration.IsUsable (d : Declaration) : Prop :=
  IsText d.space ∧ ∀ q, d.qualifier = some q → IsNonemptyText q ∧ d.space ≠ ""

/-- A tag all of whose declarations are so. -/
def Tag.IsUsable (tag : Tag) : Prop := ∀ d ∈ tag.declarations, d.IsUsable

/-- An attribute of texts. -/
def WrittenAttribute.IsUsable (a : WrittenAttribute) : Prop :=
  IsNonemptyText a.name.localName ∧ IsText a.value

theorem declaration?_isUsable {a : WrittenAttribute} {d : Declaration} (hUsable : a.IsUsable)
    (h : a.declaration? = some (some d)) : d.IsUsable := by
  unfold WrittenAttribute.declaration? at h
  dsimp only at h
  split at h
  · split at h <;> cases h
    exact ⟨hUsable.2, nofun⟩
  · split at h
    · split at h <;> cases h
    · cases h
    · split at h
      · cases h
      · rename_i hFits
        cases h
        rw [Bool.or_eq_true, not_or] at hFits
        refine ⟨hUsable.2, ?_⟩
        rintro _ ⟨⟩
        exact ⟨hUsable.1, by simpa using hFits.2⟩

/-- The declarations of a tag come from the attributes that are written in it. -/
theorem resolveTag?_isUsable {scope inner : Scope} {name : WrittenName}
    {attributes : List WrittenAttribute} {tag : Tag} (hUsable : ∀ a ∈ attributes, a.IsUsable)
    (h : resolveTag? scope name attributes = some (tag, inner)) : tag.IsUsable := by
  intro d hd
  obtain ⟨declared, hDeclared, h⟩ := Option.bind_eq_some_iff.mp h
  obtain ⟨resolved, -, h⟩ := Option.bind_eq_some_iff.mp h
  split at h
  · cases h
  · obtain ⟨name', -, h⟩ := Option.bind_eq_some_iff.mp h
    cases h
    obtain ⟨found, hFound, rfl⟩ := List.mem_filterMap.mp hd
    obtain ⟨a, ha, hDeclaration⟩ := exists_of_mem_mapM hDeclared hFound
    have hDeclaring : a ∈ (attributes.partition WrittenAttribute.isDeclaration).1 := ha
    rw [List.partition_eq_filter_filter] at hDeclaring
    exact declaration?_isUsable (hUsable a (List.mem_filter.mp hDeclaring).1) hDeclaration

/-- A rule for an attribute of texts. -/
def AttributeRule.IsUsable (rule : AttributeRule) : Prop :=
  IsNonemptyText rule.name.localName ∧ ∀ value, rule.default = some value → IsText value

section Tags

variable {r : ReadingRules} {s rest : List Char} {spent spent' : Nat}

/-- Rules for attributes of texts. -/
def ReadingRules.IsUsable (r : ReadingRules) : Prop := ∀ rule ∈ r.attributes, rule.IsUsable

theorem attributes?_isUsable {element : String} {fuel : Nat} {taken written : List WrittenAttribute}
    {ending : ReadingRules.TagEnd} (hTaken : ∀ a ∈ taken, a.IsUsable)
    (h : r.attributes? element fuel spent taken s = some (written, ending, spent', rest)) :
    ∀ a ∈ written, a.IsUsable := by
  induction fuel generalizing spent taken s with
  | zero => cases h
  | succ fuel ih =>
    rw [ReadingRules.attributes?] at h
    split at h
    · cases h
      exact hTaken
    · obtain ⟨behind, -, h⟩ := Option.bind_eq_some_iff.mp h
      obtain ⟨⟨name, behind'⟩, hName, h⟩ := Option.bind_eq_some_iff.mp h
      obtain ⟨value, -, h⟩ := Option.bind_eq_some_iff.mp h
      obtain ⟨⟨literal, behind''⟩, -, h⟩ := Option.bind_eq_some_iff.mp h
      obtain ⟨⟨found, spent''⟩, hFound, h⟩ := Option.bind_eq_some_iff.mp h
      refine ih (List.forall_mem_cons.mpr ⟨?_, hTaken⟩) h
      obtain ⟨⟨value', spent'''⟩, hValue, hSame⟩ := Option.map_eq_some_iff.mp hFound
      cases hSame
      exact ⟨writtenName?_isNonemptyText hName, value?_isText hValue _⟩

theorem startTag?_isUsable (hRules : r.IsUsable) {scope inner : Scope} {name : WrittenName}
    {tag : Tag} {ending : ReadingRules.TagEnd}
    (h : r.startTag? scope spent s = some ((name, tag, inner, ending), spent', rest)) :
    tag.IsUsable := by
  obtain ⟨⟨name', behind⟩, -, h⟩ := Option.bind_eq_some_iff.mp h
  obtain ⟨⟨written, ending', spent'', behind'⟩, hWritten, h⟩ := Option.bind_eq_some_iff.mp h
  obtain ⟨⟨tag', inner'⟩, hTag, h⟩ := Option.bind_eq_some_iff.mp h
  cases h
  refine resolveTag?_isUsable (fun a ha => ?_) hTag
  rcases List.mem_append.mp ha with ha | ha
  · exact attributes?_isUsable (by simp) hWritten a (List.mem_reverse.mp ha)
  · obtain ⟨rule, hRule, ha⟩ := List.mem_filterMap.mp ha
    split at ha
    · cases ha
    · obtain ⟨value, hValue, rfl⟩ := Option.map_eq_some_iff.mp ha
      exact ⟨(hRules rule hRule).1, (hRules rule hRule).2 value hValue⟩

end Tags

namespace Doctype

variable {d d' : Doctype} {s rest : List Char}

/-- A document type with rules for attributes of texts. -/
def IsUsable (d : Doctype) : Prop := ∀ rule ∈ d.attributes, rule.IsUsable

theorem attributeDefault?_isText {isPlain : Bool} {default : Option String}
    (h : d.attributeDefault? isPlain s = some (default, rest)) :
    ∀ value, default = some value → IsText value := by
  rintro value rfl
  unfold attributeDefault? at h
  split at h
  · cases h
  · cases h
  · obtain ⟨⟨written, behind⟩, -, h⟩ := Option.bind_eq_some_iff.mp h
    obtain ⟨⟨found, spent⟩, hValue, hSame⟩ := Option.map_eq_some_iff.mp h
    cases hSame
    exact value?_isText hValue isPlain

theorem attributeRules?_isUsable {element : String} {fuel : Nat} (hUsable : d.IsUsable)
    (h : attributeRules? element fuel d s = some (d', rest)) : d'.IsUsable := by
  induction fuel generalizing d s with
  | zero => cases h
  | succ fuel ih =>
    rw [attributeRules?] at h
    split at h
    · cases h
      exact hUsable
    · obtain ⟨behind, -, h⟩ := Option.bind_eq_some_iff.mp h
      obtain ⟨⟨name, behind'⟩, hName, h⟩ := Option.bind_eq_some_iff.mp h
      obtain ⟨typeStart, -, h⟩ := Option.bind_eq_some_iff.mp h
      obtain ⟨⟨type, behind''⟩, -, h⟩ := Option.bind_eq_some_iff.mp h
      obtain ⟨defaultStart, -, h⟩ := Option.bind_eq_some_iff.mp h
      obtain ⟨⟨default, behind'''⟩, hDefault, h⟩ := Option.bind_eq_some_iff.mp h
      refine ih ?_ h
      split
      · exact hUsable
      · intro rule hRule
        rcases List.mem_append.mp hRule with hRule | hRule
        · exact hUsable rule hRule
        · obtain rfl := List.mem_singleton.mp hRule
          exact ⟨writtenName?_isNonemptyText hName, attributeDefault?_isText hDefault⟩

theorem attributeList?_isUsable (hUsable : d.IsUsable) (h : d.attributeList? s = some (d', rest)) :
    d'.IsUsable := by
  obtain ⟨behind, -, h⟩ := Option.bind_eq_some_iff.mp h
  obtain ⟨⟨element, behind'⟩, -, h⟩ := Option.bind_eq_some_iff.mp h
  exact attributeRules?_isUsable hUsable h

/-- The declaration of an entity leaves the attributes as they are. -/
theorem entity?_attributes (h : d.entity? s = some (d', rest)) : d'.attributes = d.attributes := by
  obtain ⟨behind, -, h⟩ := Option.bind_eq_some_iff.mp h
  dsimp only at h
  split at h
  all_goals
    obtain ⟨⟨isParameter, behind'⟩, -, h⟩ := Option.bind_eq_some_iff.mp h
    obtain ⟨⟨name, behind''⟩, -, h⟩ := Option.bind_eq_some_iff.mp h
    obtain ⟨start, -, h⟩ := Option.bind_eq_some_iff.mp h
    obtain ⟨⟨entity, behind'''⟩, -, h⟩ := Option.bind_eq_some_iff.mp h
    obtain ⟨last, -, h⟩ := Option.bind_eq_some_iff.mp h
    cases h
    cases isParameter <;> rfl

theorem declarationsFrom?_isUsable {isInner : Bool}
    {inside : Doctype → List Char → Option (Doctype × List Char)} {fuel : Nat}
    (hInside : ∀ {d d' s rest}, d.IsUsable → inside d s = some (d', rest) → d'.IsUsable)
    (hUsable : d.IsUsable) (h : declarationsFrom? isInner inside fuel d s = some (d', rest)) :
    d'.IsUsable := by
  fun_induction declarationsFrom? isInner inside fuel d s with
  | case3 | case4 =>
    cases h
    exact hUsable
  | case6 | case8 | case14 =>
    rename_i ih
    exact ih hUsable h
  | case12 =>
    rename_i hText ih
    refine ih (hInside ?_ hText) h
    exact hUsable
  | case15 =>
    rename_i next hNext ih
    refine ih ?_ h
    dsimp only [next] at hNext
    split at hNext
    · rw [IsUsable, entity?_attributes hNext]
      exact hUsable
    · exact attributeList?_isUsable hUsable hNext
    · obtain ⟨behind, -, hSame⟩ := Option.map_eq_some_iff.mp hNext
      cases hSame
      exact hUsable
    · obtain ⟨behind, -, hSame⟩ := Option.map_eq_some_iff.mp hNext
      cases hSame
      exact hUsable
    · cases hNext
  | _ => cases h

theorem declarations?_isUsable {levels : Nat} {isInner : Bool} (hUsable : d.IsUsable)
    (h : declarations? levels isInner d s = some (d', rest)) : d'.IsUsable := by
  induction levels generalizing isInner d d' s rest with
  | zero => exact declarationsFrom?_isUsable (fun _ hNone => by cases hNone) hUsable h
  | succ levels ih => exact declarationsFrom?_isUsable ih hUsable h

theorem read?_isUsable (h : read? s = some (d, rest)) : d.IsUsable := by
  obtain ⟨behind, -, h⟩ := Option.bind_eq_some_iff.mp h
  obtain ⟨⟨name, behind'⟩, -, h⟩ := Option.bind_eq_some_iff.mp h
  dsimp only at h
  split at h
  · obtain ⟨⟨d', behind''⟩, hDeclared, h⟩ := Option.bind_eq_some_iff.mp h
    obtain ⟨last, -, h⟩ := Option.bind_eq_some_iff.mp h
    cases h
    exact declarations?_isUsable (fun _ hRule => by cases hRule) hDeclared
  · obtain ⟨last, -, h⟩ := Option.bind_eq_some_iff.mp h
    cases h
    exact fun _ hRule => by cases hRule

end Doctype

theorem doctypeOf?_isUsable {s rest : List Char} {d : Doctype} (h : doctypeOf? s = some (d, rest)) :
    d.IsUsable := by
  unfold doctypeOf? at h
  split at h
  · exact Doctype.read?_isUsable h
  · cases h
    exact fun _ hRule => by cases hRule

namespace Document

variable {bytes : List UInt8} {d : Document}

theorem ofBytes?_eq_some (h : ofBytes? bytes = some d) :
    ∃ s p, Parts.read? s = some p ∧ d = ofParts p := by
  obtain ⟨s, -, h⟩ := Option.bind_eq_some_iff.mp h
  obtain ⟨p, hParts, rfl⟩ := Option.map_eq_some_iff.mp h
  exact ⟨s, p, hParts, rfl⟩

/-- A document that is read is a tree of rows. -/
theorem ofBytes?_isTree (h : ofBytes? bytes = some d) : d.IsTree := by
  obtain ⟨s, p, -, rfl⟩ := ofBytes?_eq_some h
  exact isTree_ofParts p

/-- Its declarations can be used. -/
theorem ofBytes?_isUsable (h : ofBytes? bytes = some d) {i : Nat} {tag : Tag}
    (hTag : d.tag? i = some tag) : tag.IsUsable := by
  obtain ⟨s, p, hParts, rfl⟩ := ofBytes?_eq_some h
  have hYields : ∀ {doctype s rest}, doctypeOf? s = some (doctype, rest) →
      ∀ entities, (ReadingRules.mk entities doctype.attributes).Yields Tag.IsUsable := by
    intro doctype _ _ hDoctype entities _ _ _ _ _ _ _ _ _ hStart
    have hRules : (ReadingRules.mk entities doctype.attributes).IsUsable :=
      doctypeOf?_isUsable hDoctype
    exact startTag?_isUsable hRules hStart
  exact holds_tag? (Parts.read?_holds hYields hParts) hTag

end Document

theorem nodup_of_allDiffer {α : Type} [BEq α] [LawfulBEq α] {l : List α} (h : allDiffer l) :
    l.Nodup := by
  induction l with
  | nil => exact List.nodup_nil
  | cons a rest ih =>
    simp only [allDiffer, Bool.and_eq_true, Bool.not_eq_true', List.contains_eq_mem,
      decide_eq_false_iff_not] at h
    exact List.nodup_cons.mpr ⟨h.1, ih h.2⟩

/-- The name of the attribute that makes a declaration. -/
def Declaration.attributeName (d : Declaration) : WrittenName :=
  match d.qualifier with
  | none => ⟨none, "xmlns"⟩
  | some q => ⟨some "xmlns", q⟩

theorem name_of_declaration? {a : WrittenAttribute} {d : Declaration} (hKind : a.isDeclaration)
    (h : a.declaration? = some (some d)) :
    a.name = d.attributeName ∧ d.qualifier ≠ some "xml" := by
  obtain ⟨⟨qualifier, name⟩, value, isIdentifier⟩ := a
  unfold WrittenAttribute.declaration? at h
  dsimp only at h
  cases qualifier with
  | none =>
    dsimp only at h
    split at h <;> cases h
    obtain rfl : name = "xmlns" := by simpa [WrittenAttribute.isDeclaration] using hKind
    exact ⟨rfl, nofun⟩
  | some qualifier =>
    obtain rfl : qualifier = "xmlns" := by simpa [WrittenAttribute.isDeclaration] using hKind
    dsimp only at h
    split at h
    · split at h <;> cases h
    · cases h
    · rename_i hXml hXmlns
      split at h <;> cases h
      refine ⟨rfl, ?_⟩
      rintro ⟨⟩
      exact hXml rfl

/-- A tag that declares each qualifier at most once, and `xml` never. -/
structure Tag.DeclaresOnce (tag : Tag) : Prop where
  distinct : (tag.declarations.map Declaration.qualifier).Nodup
  unreserved : ∀ d ∈ tag.declarations, d.qualifier ≠ some "xml"

/-- Attributes of different names declare different qualifiers. -/
theorem declarations_distinct {declaring : List WrittenAttribute}
    {declared : List (Option Declaration)} (hKind : ∀ a ∈ declaring, a.isDeclaration)
    (hNames : (declaring.map WrittenAttribute.name).Nodup)
    (h : declaring.mapM WrittenAttribute.declaration? = some declared) :
    ((declared.filterMap id).map Declaration.qualifier).Nodup := by
  induction declaring generalizing declared with
  | nil =>
    cases h
    exact List.nodup_nil
  | cons a rest ih =>
    rw [List.mapM_cons] at h
    obtain ⟨first, hFirst, h⟩ := Option.bind_eq_some_iff.mp h
    obtain ⟨others, hOthers, h⟩ := Option.bind_eq_some_iff.mp h
    cases h
    obtain ⟨hHead, hKindRest⟩ := List.forall_mem_cons.mp hKind
    obtain ⟨hNew, hNamesRest⟩ := List.nodup_cons.mp hNames
    have hRest := ih hKindRest hNamesRest hOthers
    cases first with
    | none => exact hRest
    | some d =>
      refine List.nodup_cons.mpr ⟨fun hMem => hNew ?_, hRest⟩
      obtain ⟨e, he, hSame⟩ := List.mem_map.mp hMem
      obtain ⟨found, hFound, rfl⟩ := List.mem_filterMap.mp he
      obtain ⟨b, hb, hDeclares⟩ := exists_of_mem_mapM hOthers hFound
      have hName : b.name = a.name := by
        rw [(name_of_declaration? (hKindRest b hb) hDeclares).1, (name_of_declaration? hHead hFirst).1,
          Declaration.attributeName, Declaration.attributeName, hSame]
      exact hName ▸ List.mem_map_of_mem hb

theorem resolveTag?_declaresOnce {scope inner : Scope} {name : WrittenName}
    {attributes : List WrittenAttribute} {tag : Tag}
    (h : resolveTag? scope name attributes = some (tag, inner)) : tag.DeclaresOnce := by
  obtain ⟨declared, hDeclared, h⟩ := Option.bind_eq_some_iff.mp h
  obtain ⟨resolved, -, h⟩ := Option.bind_eq_some_iff.mp h
  split at h
  · cases h
  · rename_i hDiffer
    obtain ⟨name', -, h⟩ := Option.bind_eq_some_iff.mp h
    cases h
    have hDeclaring : (attributes.partition WrittenAttribute.isDeclaration).1.mapM
        WrittenAttribute.declaration? = some declared := hDeclared
    rw [List.partition_eq_filter_filter] at hDeclaring
    have hKind : ∀ a ∈ attributes.filter WrittenAttribute.isDeclaration, a.isDeclaration :=
      fun a ha => (List.mem_filter.mp ha).2
    constructor
    · refine declarations_distinct hKind ?_ hDeclaring
      have hNames : (attributes.map WrittenAttribute.name).Nodup := by
        refine nodup_of_allDiffer ?_
        simp only [Bool.or_eq_true, not_or, Bool.not_eq_true', Bool.not_eq_false] at hDiffer
        exact hDiffer.1
      exact hNames.sublist (List.filter_sublist.map _)
    · intro d hd
      obtain ⟨found, hFound, rfl⟩ := List.mem_filterMap.mp hd
      obtain ⟨a, ha, hDeclares⟩ := exists_of_mem_mapM hDeclaring hFound
      exact (name_of_declaration? (hKind a ha) hDeclares).2

theorem startTag?_declaresOnce (r : ReadingRules) : r.Yields Tag.DeclaresOnce := by
  intro scope inner spent spent' s rest name tag ending h
  obtain ⟨⟨name', behind⟩, -, h⟩ := Option.bind_eq_some_iff.mp h
  obtain ⟨⟨written, ending', spent'', behind'⟩, -, h⟩ := Option.bind_eq_some_iff.mp h
  obtain ⟨⟨tag', inner'⟩, hTag, h⟩ := Option.bind_eq_some_iff.mp h
  cases h
  exact resolveTag?_declaresOnce hTag

theorem Document.ofBytes?_declaresOnce {bytes : List UInt8} {d : Document}
    (h : ofBytes? bytes = some d) {i : Nat} {tag : Tag} (hTag : d.tag? i = some tag) :
    tag.DeclaresOnce := by
  obtain ⟨s, p, hParts, rfl⟩ := ofBytes?_eq_some h
  exact holds_tag? (Parts.read?_holds (fun _ _ => startTag?_declaresOnce _) hParts) hTag

end Intake.Xml
