import Intake.Proofs.Path.Named
import Intake.Proofs.Text.Parts

/-! Paths of name steps, with any names of XML and any predicates. A step is rewritten if its names
are made of the characters that a step is read by and no predicate names an axis in full. Every
other step, and every slash, stays as it is. -/

namespace Intake

/-- A name of XML without a colon. -/
structure XmlName where
  first : Char
  rest : List Char
  isStart : Xml.isNameStart first
  areNameChars : rest.all Xml.isNameChar

namespace XmlName

def chars (n : XmlName) : List Char := n.first :: n.rest

/-- Whether a step with the name can be read. -/
def isSimple (n : XmlName) : Bool :=
  Path.NameStep.isNameStart n.first && n.rest.all Path.NameStep.isNameChar

variable (n : XmlName) {c : Char}

theorem isNameChar_of_mem (h : c ∈ n.chars) : Xml.isNameChar c := by
  rcases List.mem_cons.mp h with rfl | h
  · simp [Xml.isNameChar, n.isStart]
  · exact List.all_eq_true.mp n.areNameChars c h

theorem head?_append (b : List Char) : ((n.chars ++ b).head? == some '@') = false := by
  have hFirst : n.first ≠ '@' :=
    ne_of_class (n.isNameChar_of_mem List.mem_cons_self) (by decide)
  simpa [chars] using hFirst

variable {n} {b : List Char}

/-- A simple name is read up to its end. -/
theorem name?_of_isSimple (h : n.isSimple)
    (hStop : ∀ d ∈ b.head?, Path.NameStep.isNameChar d = false) :
    Path.NameStep.name? (n.chars ++ b) = some (n.chars, b) := by
  obtain ⟨hStart, hRest⟩ := Bool.and_eq_true_iff.mp h
  exact Path.NameStep.name?_append hStart (List.all_eq_true.mp hRest) hStop

/-- No other name is read to its end. -/
theorem name?_of_not_isSimple (h : n.isSimple = false) :
    Path.NameStep.name? (n.chars ++ b) = none ∨ ∃ read c rest,
      Path.NameStep.name? (n.chars ++ b) = some (read, c :: rest) ∧ c ∈ n.chars := by
  rw [chars, List.cons_append, Path.NameStep.name?]
  split
  · next hStart =>
    have hStops : n.rest.dropWhile Path.NameStep.isNameChar ≠ [] := by
      intro hNone
      have hAll : n.rest.all Path.NameStep.isNameChar := by
        rw [← List.takeWhile_append_dropWhile (p := Path.NameStep.isNameChar) (l := n.rest), hNone,
          List.append_nil]
        exact List.all_takeWhile
      rw [isSimple, hStart, hAll] at h
      cases h
    obtain ⟨c, more, hMore⟩ := List.exists_cons_of_ne_nil hStops
    have hMem : c ∈ n.rest := List.dropWhile_subset _ (hMore ▸ List.mem_cons_self)
    have hRead : (n.rest ++ b).dropWhile Path.NameStep.isNameChar = c :: (more ++ b) := by
      rw [List.dropWhile_append, hMore]
      rfl
    rw [hRead]
    exact .inr ⟨_, c, more ++ b, rfl, List.mem_cons_of_mem _ hMem⟩
  · exact .inl rfl

end XmlName

namespace Path

/-- A text in which every literal is closed and every bracket and parenthesis has its partner. -/
inductive Balanced : List Char → Prop
  | plain {a : List Char} (h : a.all (· ∉ ['\'', '"', '[', ']', '(', ')'])) : Balanced a
  | append {a b : List Char} (ha : Balanced a) (hb : Balanced b) : Balanced (a ++ b)
  | literal {mark : Char} {a : List Char} (hMark : mark = '\'' ∨ mark = '"') (h : mark ∉ a) :
      Balanced (mark :: (a ++ [mark]))
  | brackets {a : List Char} (h : Balanced a) : Balanced ('[' :: (a ++ [']']))
  | parentheses {a : List Char} (h : Balanced a) : Balanced ('(' :: (a ++ [')']))

namespace Balanced

variable {a : List Char}

/-- A literal stands where it is, whatever characters it has. -/
theorem keeps_literal {mark : Char} (hMark : mark = '\'' ∨ mark = '"') (h : mark ∉ a)
    (depth : Int) : (⟨none, depth⟩ : Scan).Keeps (mark :: (a ++ [mark])) := by
  have hOpening : (⟨none, depth⟩ : Scan).next mark = ⟨some mark, depth⟩ := by
    rcases hMark with rfl | rfl <;> rfl
  have hSlash : mark ≠ '/' := by
    rcases hMark with rfl | rfl <;> decide
  refine .enclosed ⟨hSlash, hSlash⟩ ?_ ?_
  · rw [hOpening]
    refine .of_forall fun c hc => ⟨fun _ => rfl, ?_⟩
    have hc : c ≠ mark := fun hSame => h (hSame ▸ hc)
    simp [Scan.next, hc]
  · rw [hOpening]
    simp [Scan.next]

/-- Inside of brackets no slash of a balanced text separates steps. -/
theorem keeps (h : Balanced a) {depth : Int} (hDepth : 0 < depth) :
    (⟨none, depth⟩ : Scan).Keeps a := by
  induction h generalizing depth with
  | plain h =>
    refine .of_forall fun c hc => ⟨fun _ => ?_, ?_⟩
    · have hNe : depth ≠ 0 := by omega
      simp [Scan.isOpen, hNe]
    · have hPlain := List.all_eq_true.mp h c hc
      simp only [decide_eq_true_eq, List.mem_cons, List.not_mem_nil, or_false, not_or] at hPlain
      simp [Scan.next, hPlain]
  | append _ _ iha ihb => exact (iha hDepth).append (ihb hDepth)
  | literal hMark h => exact keeps_literal hMark h depth
  | brackets _ ih =>
    have hInside : (⟨none, depth + 1⟩ : Scan).Keeps _ := ih (by omega)
    refine .enclosed ⟨by decide, by decide⟩ hInside ?_
    simp [Scan.next]
  | parentheses _ ih =>
    have hInside : (⟨none, depth + 1⟩ : Scan).Keeps _ := ih (by omega)
    refine .enclosed ⟨by decide, by decide⟩ hInside ?_
    simp [Scan.next]

end Balanced

/-- What stands between the brackets of a predicate. -/
structure Predicate where
  inner : List Char
  isBalanced : Balanced inner

namespace Predicate

def written (p : Predicate) : List Char := '[' :: (p.inner ++ [']'])

theorem keeps_written (p : Predicate) : Scan.start.Keeps p.written :=
  .enclosed ⟨by decide, by decide⟩ (p.isBalanced.keeps Int.one_pos) rfl

variable (predicates : List Predicate)

theorem getLast?_written : (predicates.flatMap written).getLast?.or (some ']') = some ']' := by
  induction predicates with
  | nil => rfl
  | cons p rest ih =>
    have hLast : p.written.getLast? = some ']' := by
      rw [written, ← List.cons_append]
      exact List.getLast?_concat
    rw [List.flatMap_cons, List.getLast?_append, hLast, ih, Option.some_or]

/-- Whatever they are, predicates are read as predicates. -/
theorem isPredicates_written : NameStep.isPredicates (predicates.flatMap written) := by
  cases predicates with
  | nil => rfl
  | cons p rest =>
    have hLast := getLast?_written rest
    rw [List.flatMap_cons, written, List.cons_append, NameStep.isPredicates, beq_self_eq_true,
      Bool.true_and, beq_iff_eq, List.getLast?_append, List.getLast?_concat, hLast]

end Predicate

/-- A step that names an element or an attribute. -/
structure LocationStep where
  isAttribute : Bool
  qualifier : Option XmlName
  name : XmlName
  predicates : List Predicate

namespace LocationStep

/-- The name with its qualifier, as it is written. -/
def nameTest (s : LocationStep) : List Char :=
  match s.qualifier with
  | some q => q.chars ++ ':' :: s.name.chars
  | none => s.name.chars

def marker (s : LocationStep) : List Char := if s.isAttribute then ['@'] else []

def filter (s : LocationStep) : List Char := s.predicates.flatMap Predicate.written

def written (s : LocationStep) : List Char := s.marker ++ (s.nameTest ++ s.filter)

/-- The step without its qualifier. -/
def unqualified (s : LocationStep) : LocationStep := { s with qualifier := none }

/-- The step with a comparison of local names in place of its name. -/
def byLocalName (s : LocationStep) : List Char :=
  s.marker ++ (("*[local-name()='".toList ++ s.name.chars ++ "']".toList) ++ s.filter)

/-- Whether the names of the step are read as names. -/
def isSimple (s : LocationStep) : Bool := s.qualifier.all XmlName.isSimple && s.name.isSimple

/-- Whether the step can be read: its names are, and no predicate names an axis in full. -/
def isReadable (s : LocationStep) : Bool := s.isSimple && !hasAxis s.filter

/-- What is read when the step is rewritten. -/
def step (s : LocationStep) : NameStep :=
  ⟨s.isAttribute, s.qualifier.map XmlName.chars, s.name.chars, s.filter⟩

variable (s : LocationStep)

theorem mem_nameTest {c : Char} (h : c ∈ s.nameTest) : c = ':' ∨ Xml.isNameChar c := by
  unfold nameTest at h
  split at h
  · rename_i q hQualifier
    rcases List.mem_append.mp h with h | h
    · exact .inr (q.isNameChar_of_mem h)
    · exact (List.mem_cons.mp h).imp id s.name.isNameChar_of_mem
  · exact .inr (s.name.isNameChar_of_mem h)

theorem mem_marker {c : Char} (h : c ∈ s.marker) : c = '@' := by
  unfold marker at h
  split at h
  · exact List.mem_singleton.mp h
  · cases h

theorem keeps_written : Scan.start.Keeps s.written := by
  refine .append (.of_inner fun c hc => ?_) (.append (.of_inner fun c hc => ?_) ?_)
  · rw [s.mem_marker hc]
    exact ⟨by decide, by decide⟩
  · rcases s.mem_nameTest hc with rfl | hc
    · exact ⟨by decide, by decide⟩
    · exact isInner_of_class (by decide) hc
  · exact .flatMap fun p _ => p.keeps_written

/-- Axes are named in predicates only. -/
theorem hasAxis_written : hasAxis s.written = hasAxis s.filter := by
  have hName : ∀ (n : XmlName) (b : List Char), hasAxis (n.chars ++ b) = hasAxis b := fun n b =>
    hasAxis_append (fun c hc => ne_of_class (n.isNameChar_of_mem hc) (by decide)) b
  have hMarker : ∀ c ∈ s.marker, c ≠ ':' := by
    intro c hc
    rw [s.mem_marker hc]
    decide
  rw [written, hasAxis_append hMarker, nameTest]
  cases s.qualifier with
  | none => exact hName s.name s.filter
  | some q =>
    -- The colon behind the qualifier is a single one, for a name begins behind it.
    have hFirst : s.name.first ≠ ':' :=
      ne_of_class (s.name.isNameChar_of_mem List.mem_cons_self) (by decide)
    show hasAxis (q.chars ++ ':' :: s.name.chars ++ s.filter) = hasAxis s.filter
    rw [List.append_assoc, hName, List.cons_append, hasAxis, hName]
    intro more _ hMore
    exact absurd (List.cons.inj hMore).1 hFirst

/-- The marker of an attribute is seen at the head of a step, and can be dropped. -/
theorem head?_marked {isAttribute : Bool} {body : List Char}
    (h : (body.head? == some '@') = false) :
    (((if isAttribute then ['@'] else []) ++ body).head? == some '@') = isAttribute := by
  cases isAttribute with
  | true => rfl
  | false => exact h

theorem drop_marked {isAttribute : Bool} {body : List Char} :
    (if isAttribute then ((if isAttribute then ['@'] else []) ++ body).drop 1
      else (if isAttribute then ['@'] else []) ++ body) = body := by
  cases isAttribute <;> rfl

/-- The marker of an attribute is read by itself. -/
theorem parse?_written : NameStep.parse? s.written =
    (NameStep.parse? (s.nameTest ++ s.filter)).map
      fun step => { step with isAttribute := s.isAttribute } := by
  have hBody : ((s.nameTest ++ s.filter).head? == some '@') = false := by
    unfold nameTest
    cases s.qualifier with
    | none => exact s.name.head?_append s.filter
    | some q =>
      dsimp only
      rw [List.append_assoc]
      exact q.head?_append _
  have hHead : (s.written.head? == some '@') = s.isAttribute := head?_marked hBody
  have hDrop :
      (if s.isAttribute then s.written.drop 1 else s.written) = s.nameTest ++ s.filter :=
    drop_marked
  unfold NameStep.parse?
  simp only [hHead, hDrop, hBody, Bool.false_eq_true, if_false]
  split
  · rfl
  · split
    · rfl
    · split <;> rfl
  · split <;> rfl

theorem isPredicates_of_ne {c : Char} {rest : List Char} (h : c ≠ '[') :
    NameStep.isPredicates (c :: rest) = false := by
  rw [NameStep.isPredicates, beq_eq_false_iff_ne.mpr h, Bool.false_and]

section Names

variable {n q : XmlName} {b : List Char}

theorem parse?_name {read rest : List Char}
    (hRead : NameStep.name? (n.chars ++ b) = some (read, rest)) (hColon : rest.head? ≠ some ':') :
    NameStep.parse? (n.chars ++ b) =
      if NameStep.isPredicates rest then some ⟨false, none, read, rest⟩ else none := by
  simp only [NameStep.parse?, n.head?_append, hRead, Bool.false_eq_true, if_false]
  split
  · next hNone => cases hNone
  · next hSome =>
    obtain ⟨-, rfl⟩ := Prod.mk.inj (Option.some.inj hSome)
    exact absurd rfl hColon
  · next hSome =>
    obtain ⟨rfl, rfl⟩ := Prod.mk.inj (Option.some.inj hSome)
    rfl

theorem parse?_qualifier (h : q.isSimple) :
    NameStep.parse? (q.chars ++ ':' :: b) = (NameStep.name? b).bind fun read =>
      if NameStep.isPredicates read.2 then some ⟨false, some q.chars, read.1, read.2⟩
      else none := by
  have hColon : NameStep.isNameChar ':' = false := by decide +kernel
  have hRead : NameStep.name? (q.chars ++ ':' :: b) = some (q.chars, ':' :: b) :=
    XmlName.name?_of_isSimple h (by simpa using hColon)
  simp only [NameStep.parse?, q.head?_append, hRead, Bool.false_eq_true, if_false]
  cases NameStep.name? b <;> rfl

/-- A text is no name step if the name in front is not read to its end. -/
theorem parse?_of_not_isSimple (h : n.isSimple = false) :
    NameStep.parse? (n.chars ++ b) = none := by
  rcases XmlName.name?_of_not_isSimple (b := b) h with hNone | ⟨read, c, rest, hRead, hMem⟩
  · simp only [NameStep.parse?, n.head?_append, hNone, Bool.false_eq_true, if_false]
  · have hColon : c ≠ ':' := ne_of_class (n.isNameChar_of_mem hMem) (by decide)
    have hBracket : c ≠ '[' := ne_of_class (n.isNameChar_of_mem hMem) (by decide)
    rw [parse?_name hRead (by simpa using hColon), isPredicates_of_ne hBracket,
      if_neg Bool.false_ne_true]

end Names

theorem head?_filter {c : Char} (h : s.filter.head? = some c) : c = '[' := by
  unfold filter at h
  cases hPredicates : s.predicates with
  | nil => simp [hPredicates] at h
  | cons p rest =>
    rw [hPredicates, List.flatMap_cons, Predicate.written, List.cons_append, List.head?_cons] at h
    exact (Option.some.inj h).symm

theorem getLast?_filter {c : Char} (h : s.filter.getLast? = some c) : c = ']' := by
  have hLast := Predicate.getLast?_written s.predicates
  rw [← filter, h, Option.some_or] at hLast
  exact Option.some.inj hLast

theorem parse?_of_isSimple (h : s.isSimple) : NameStep.parse? s.written = some s.step := by
  have hStop : ∀ d ∈ s.filter.head?, NameStep.isNameChar d = false := by
    intro d hd
    rw [s.head?_filter hd]
    decide +kernel
  have hNoColon : s.filter.head? ≠ some ':' := by
    intro hColon
    exact absurd (s.head?_filter hColon) (by decide)
  have hPredicates : NameStep.isPredicates s.filter := Predicate.isPredicates_written s.predicates
  obtain ⟨hQualifier, hName⟩ := Bool.and_eq_true_iff.mp h
  have hRead := XmlName.name?_of_isSimple hName hStop
  rw [s.parse?_written, step, nameTest]
  cases hQ : s.qualifier with
  | none =>
    dsimp only
    rw [parse?_name hRead hNoColon, if_pos hPredicates]
    rfl
  | some q =>
    rw [hQ, Option.all_some] at hQualifier
    dsimp only
    rw [List.append_assoc, List.cons_append, parse?_qualifier hQualifier, hRead, Option.bind_some]
    dsimp only
    rw [if_pos hPredicates]
    rfl

theorem parse?_eq_none (h : s.isSimple = false) : NameStep.parse? s.written = none := by
  rw [s.parse?_written, Option.map_eq_none_iff, nameTest]
  cases hQ : s.qualifier with
  | none =>
    rw [isSimple, hQ, Option.all_none, Bool.true_and] at h
    exact parse?_of_not_isSimple h
  | some q =>
    dsimp only
    rw [List.append_assoc, List.cons_append]
    by_cases hSimple : q.isSimple
    · rw [isSimple, hQ, Option.all_some, hSimple, Bool.true_and] at h
      rw [parse?_qualifier hSimple]
      rcases XmlName.name?_of_not_isSimple (b := s.filter) h with
        hNone | ⟨read, c, rest, hRead, hMem⟩
      · rw [hNone, Option.bind_none]
      · have hBracket : c ≠ '[' := ne_of_class (s.name.isNameChar_of_mem hMem) (by decide)
        rw [hRead, Option.bind_some]
        dsimp only
        rw [isPredicates_of_ne hBracket, if_neg Bool.false_ne_true]
    · exact parse?_of_not_isSimple (Bool.eq_false_iff.mpr hSimple)

theorem isBlank_of_isNameChar {c : Char} (h : NameStep.isNameChar c) : Text.isBlank c = false :=
  Text.isBlank_of_class (p := NameStep.isNameChar) (by decide +kernel) h

theorem isBlank_of_isSimple {n : XmlName} (h : n.isSimple) {c : Char} (hc : c ∈ n.chars) :
    Text.isBlank c = false := by
  obtain ⟨hStart, hRest⟩ := Bool.and_eq_true_iff.mp h
  refine isBlank_of_isNameChar ?_
  rcases List.mem_cons.mp hc with rfl | hc
  · exact isStepChar_of_isPlainChar (isPlainChar_of_isPlainStart hStart)
  · exact List.all_eq_true.mp hRest c hc

theorem isBlank_of_mem_nameTest (h : s.isSimple) {c : Char} (hc : c ∈ s.nameTest) :
    Text.isBlank c = false := by
  obtain ⟨hQualifier, hName⟩ := Bool.and_eq_true_iff.mp h
  unfold nameTest at hc
  cases hQ : s.qualifier with
  | none =>
    rw [hQ] at hc
    exact isBlank_of_isSimple hName hc
  | some q =>
    rw [hQ] at hc hQualifier
    rcases List.mem_append.mp hc with hc | hc
    · exact isBlank_of_isSimple hQualifier hc
    · rcases List.mem_cons.mp hc with rfl | hc
      · decide
      · exact isBlank_of_isSimple hName hc

theorem nameTest_ne_nil : s.nameTest ≠ [] := by
  unfold nameTest
  cases s.qualifier <;> simp [XmlName.chars]

/-- A step of simple names has no blanks around it. -/
theorem trimmed_written (h : s.isSimple) : Text.trimmed s.written = s.written := by
  have hFront : ∀ c ∈ s.marker ++ s.nameTest, Text.isBlank c = false := by
    intro c hc
    rcases List.mem_append.mp hc with hc | hc
    · rw [s.mem_marker hc]
      decide
    · exact s.isBlank_of_mem_nameTest h hc
  have hSome : s.marker ++ s.nameTest ≠ [] := List.append_ne_nil_of_right_ne_nil _ s.nameTest_ne_nil
  rw [written, ← List.append_assoc]
  refine Text.trimmed_eq_self (fun c hc => ?_) fun c hc => ?_
  · obtain ⟨d, more, hMore⟩ := List.exists_cons_of_ne_nil hSome
    rw [hMore, List.cons_append, List.head?_cons, Option.some_inj] at hc
    rw [← hc]
    exact hFront d (hMore ▸ List.mem_cons_self)
  · rw [List.getLast?_append, Option.or_eq_some_iff] at hc
    rcases hc with hc | ⟨-, hc⟩
    · rw [s.getLast?_filter hc]
      decide
    · exact hFront c (List.mem_of_getLast? hc)

/-- A step is rewritten if it can be read. Any other step stays, unless there are blanks around it
that are characters of its names. -/
theorem rewriteStep_written (f : NameStep → List Char)
    (h : s.isSimple = false → Text.trimmed s.written = s.written) :
    rewriteStep f s.written = if s.isReadable then f s.step else s.written := by
  have hSome : s.written.isEmpty = false := by
    simp [written, s.nameTest_ne_nil]
  rw [rewriteStep, hSome, Bool.false_or, s.hasAxis_written, isReadable]
  cases hasAxis s.filter with
  | true => simp
  | false =>
    cases hSimple : s.isSimple with
    | true => simp [s.trimmed_written hSimple, s.parse?_of_isSimple hSimple]
    | false => simp [h hSimple, s.parse?_eq_none hSimple]

end LocationStep

structure LocationPath where
  origin : Origin
  first : LocationStep
  rest : List (Slash × LocationStep)

namespace LocationPath

def steps (p : LocationPath) : List LocationStep := p.first :: p.rest.map Prod.snd

/-- The path with its steps written in some way. -/
def render (render : LocationStep → List Char) (p : LocationPath) : String :=
  String.ofList (p.origin.text ++ (render p.first ++
    p.rest.flatMap fun (slash, s) => slash.text ++ render s))

def written (p : LocationPath) : String := p.render LocationStep.written

variable (p : LocationPath)

theorem rewriteSteps_written (f : NameStep → List Char)
    (h : ∀ s ∈ p.steps, s.isSimple = false → Text.trimmed s.written = s.written) :
    String.ofList (rewriteSteps f p.written.toList) =
      p.render fun s => if s.isReadable then f s.step else s.written := by
  rw [written, render, String.toList_ofList, rewriteSteps_origin,
    rewriteSteps_slashed (fun s _ => s.keeps_written) fun s hs => s.rewriteStep_written f (h s hs)]
  rfl

/-- The path without the qualifiers of its steps, as it should be written. -/
def unqualified (p : LocationPath) : String := p.render fun s => s.unqualified.written

/-- The path with comparisons of local names, as it should be written. -/
def byLocalName (p : LocationPath) : String := p.render LocationStep.byLocalName

/-- Each step of a path is rewritten by itself: it loses exactly its qualifier, or has its name
replaced by a comparison, if it can be read, and stays as it is otherwise. Only names with blanks at
the ends of a step are left out, for the step is read without them. -/
theorem rewrites_written
    (h : ∀ s ∈ p.steps, s.isSimple = false → Text.trimmed s.written = s.written) :
    Path.unqualified p.written =
        (p.render fun s => if s.isReadable then s.unqualified.written else s.written) ∧
      Path.byLocalName p.written =
        p.render fun s => if s.isReadable then s.byLocalName else s.written := by
  have hUnqualified : ∀ s : LocationStep, s.step.unqualified = s.unqualified.written := by
    intro s
    show s.marker ++ s.name.chars ++ s.filter = s.marker ++ (s.name.chars ++ s.filter)
    exact List.append_assoc _ _ _
  have hByLocalName : ∀ s : LocationStep, s.step.byLocalName = s.byLocalName := by
    intro s
    show s.marker ++ _ ++ s.name.chars ++ _ ++ s.filter = _
    rw [LocationStep.byLocalName]
    simp only [List.append_assoc]
  constructor
  · rw [Path.unqualified, p.rewriteSteps_written _ h]
    simp only [hUnqualified]
  · rw [Path.byLocalName, p.rewriteSteps_written _ h]
    simp only [hByLocalName]

/-- A path of three steps: the predicate of the first holds a slash and a colon, the second begins
with another letter than those of ASCII, and the third is an attribute. -/
def overview : LocationPath where
  origin := .anywhere
  first :=
    { isAttribute := false
      qualifier := some ⟨'t', ['n', 's'], by decide, by decide⟩
      name := ⟨'I', ['t', 'e', 'm'], by decide, by decide⟩
      predicates := [⟨"@type=".toList ++ '\'' :: ("A/B:C".toList ++ ['\'']),
        .append (.plain (by decide)) (.literal (.inl rfl) (by decide))⟩] }
  rest := [(.single,
    { isAttribute := false
      qualifier := some ⟨'t', ['n', 's'], by decide, by decide⟩
      name := ⟨'Ü', ['b', 'e', 'r', 's', 'i', 'c', 'h', 't'], by decide, by decide⟩
      predicates := [] }), (.single,
    { isAttribute := true
      qualifier := some ⟨'t', ['n', 's'], by decide, by decide⟩
      name := ⟨'q', ['t', 'y'], by decide, by decide⟩
      predicates := [] })]

example : overview.written = "//tns:Item[@type='A/B:C']/tns:Übersicht/@tns:qty" := by decide

theorem rewrites_written_overview :
    Path.unqualified overview.written = "//Item[@type='A/B:C']/tns:Übersicht/@qty" ∧
      Path.byLocalName overview.written =
        "//*[local-name()='Item'][@type='A/B:C']/tns:Übersicht/@*[local-name()='qty']" := by
  have hEdges : ∀ s ∈ overview.steps, s.isSimple = false → Text.trimmed s.written = s.written := by
    decide +kernel
  obtain ⟨hUnqualified, hByLocalName⟩ := overview.rewrites_written hEdges
  rw [hUnqualified, hByLocalName]
  decide +kernel

/-- A path whose predicate names an axis in full. -/
def withAxis : LocationPath where
  origin := .here
  first :=
    { isAttribute := false
      qualifier := some ⟨'t', ['n', 's'], by decide, by decide⟩
      name := ⟨'I', ['t', 'e', 'm'], by decide, by decide⟩
      predicates := [⟨"child::Sku".toList, .plain (by decide)⟩] }
  rest := []

/-- Neither path loses all of its qualifiers, and neither has all of its names replaced. -/
theorem not_rewrites_overview :
    (Path.unqualified overview.written ≠ overview.unqualified ∧
      Path.byLocalName overview.written ≠ overview.byLocalName) ∧
    withAxis.written = "tns:Item[child::Sku]" ∧
      Path.unqualified withAxis.written = withAxis.written ∧
      withAxis.unqualified = "Item[child::Sku]" ∧
      Path.byLocalName withAxis.written = withAxis.written ∧
      withAxis.byLocalName = "*[local-name()='Item'][child::Sku]" := by
  decide +kernel

end LocationPath

end Path

end Intake
