import Intake.Proofs.Path.Name
import Intake.Proofs.Path.Scan
import Intake.Proofs.Text.Parts

/-! Paths of names: steps that name elements, with or without qualifiers, behind single or double
slashes. Both ways of making a path independent of qualifiers rewrite every step of such a path, and
leave the slashes where they are. -/

namespace Intake.Path

/-- A step that names an element. -/
structure NameTest where
  qualifier : Option PlainName
  name : PlainName

namespace NameTest

/-- The step as it is written. -/
def written (t : NameTest) : List Char :=
  match t.qualifier with
  | some q => q.chars ++ ':' :: t.name.chars
  | none => t.name.chars

/-- The step without its qualifier. -/
def unqualified (t : NameTest) : NameTest := { t with qualifier := none }

/-- The step as a comparison of local names. -/
def byLocalName (t : NameTest) : List Char :=
  "*[local-name()='".toList ++ t.name.chars ++ "']".toList

/-- A step is written with the characters of its names, and a colon. -/
theorem mem_written {t : NameTest} {c : Char} (h : c ∈ t.written) : c = ':' ∨ isPlainChar c := by
  unfold written at h
  split at h
  · rename_i q hQualifier
    rcases List.mem_append.mp h with h | h
    · exact .inr (q.isPlainChar_of_mem h)
    · exact (List.mem_cons.mp h).imp id t.name.isPlainChar_of_mem
  · exact .inr (t.name.isPlainChar_of_mem h)

/-- What is read when the step is rewritten. -/
def step (t : NameTest) : NameStep := ⟨false, t.qualifier.map PlainName.chars, t.name.chars, []⟩

end NameTest

/-- What stands between two steps. -/
inductive Slash where
  | single | double
  deriving DecidableEq, Repr

/-- What stands in front of the first step. -/
inductive Origin where
  | here | top | anywhere
  deriving DecidableEq, Repr

/-- The slashes as they are written. -/
def Slash.text : Slash → List Char
  | single => ['/']
  | double => ['/', '/']

def Origin.text : Origin → List Char
  | here => []
  | top => ['/']
  | anywhere => ['/', '/']

/-- A path of names. -/
structure NamePath where
  origin : Origin
  first : NameTest
  rest : List (Slash × NameTest)

namespace NamePath

/-- The steps behind the first one, each with its slashes. -/
def tail (render : NameTest → List Char) (rest : List (Slash × NameTest)) : List Char :=
  rest.flatMap fun (slash, t) => slash.text ++ render t

@[simp] theorem tail_nil (render : NameTest → List Char) : tail render [] = [] := rfl

theorem tail_cons (render : NameTest → List Char) (slash : Slash) (t : NameTest)
    (rest : List (Slash × NameTest)) :
    tail render ((slash, t) :: rest) = slash.text ++ (render t ++ tail render rest) := by
  rw [tail, List.flatMap_cons, List.append_assoc]
  rfl

/-- The path with its steps written in some way. -/
def render (render : NameTest → List Char) (p : NamePath) : List Char :=
  p.origin.text ++ (render p.first ++ tail render p.rest)

/-- A path is written with the characters of its steps, and slashes. -/
theorem mem_render {render : NameTest → List Char} {p : NamePath} {c : Char}
    (h : c ∈ p.render render) : c = '/' ∨ ∃ t, c ∈ render t := by
  have hSlash : ∀ (slash : Slash), c ∈ slash.text → c = '/' := by
    intro slash hc
    cases slash <;> simpa [Slash.text] using hc
  have hOrigin : c ∈ p.origin.text → c = '/' := by
    intro hc
    cases hText : p.origin with
    | here =>
      rw [hText] at hc
      cases hc
    | _ => simpa [Origin.text, hText] using hc
  rw [NamePath.render, tail, List.mem_append, List.mem_append, List.mem_flatMap] at h
  rcases h with h | h | ⟨⟨slash, t⟩, -, h⟩
  · exact .inl (hOrigin h)
  · exact .inr ⟨p.first, h⟩
  · exact (List.mem_append.mp h).imp (hSlash slash) fun h => ⟨t, h⟩

/-- The path as it is written. -/
def written (p : NamePath) : String := String.ofList (p.render NameTest.written)

/-- The path without qualifiers. -/
def unqualified (p : NamePath) : NamePath where
  origin := p.origin
  first := p.first.unqualified
  rest := p.rest.map fun (slash, t) => (slash, t.unqualified)

/-- The path as comparisons of local names. -/
def byLocalName (p : NamePath) : String := String.ofList (p.render NameTest.byLocalName)

end NamePath

section Steps

theorem NameTest.keeps_written (t : NameTest) : Scan.start.Keeps t.written := by
  refine .of_inner fun c hc => ?_
  rcases mem_written hc with rfl | hc
  · exact ⟨by decide, by decide⟩
  · exact isInner_of_class (by decide) hc

variable {α : Type} {f : NameStep → List Char} {written rewritten : α → List Char}

/-- Behind a step, every step is rewritten by itself and every slash stays. -/
theorem rewriteSteps_slashed {first : α} {rest : List (Slash × α)}
    (hKeeps : ∀ a ∈ first :: rest.map Prod.snd, Scan.start.Keeps (written a))
    (hStep : ∀ a ∈ first :: rest.map Prod.snd, rewriteStep f (written a) = rewritten a) :
    rewriteSteps f (written first ++ rest.flatMap fun (slash, a) => slash.text ++ written a) =
      rewritten first ++ rest.flatMap fun (slash, a) => slash.text ++ rewritten a := by
  induction rest generalizing first with
  | nil =>
    rw [List.flatMap_nil, List.flatMap_nil, List.append_nil, List.append_nil,
      (hKeeps first List.mem_cons_self).rewriteSteps_eq, hStep first List.mem_cons_self]
  | cons next rest ih =>
    obtain ⟨slash, a⟩ := next
    obtain ⟨hFirst, hKeeps⟩ := List.forall_mem_cons.mp hKeeps
    obtain ⟨hFirstStep, hStep⟩ := List.forall_mem_cons.mp hStep
    have hTail := ih hKeeps hStep
    rw [List.flatMap_cons, List.flatMap_cons, List.append_assoc, List.append_assoc]
    cases slash with
    | single =>
      show rewriteSteps f (written first ++ '/' :: (written a ++ _)) = _
      rw [hFirst.rewriteSteps_slash, hFirstStep, hTail]
      rfl
    | double =>
      show rewriteSteps f (written first ++ '/' :: '/' :: (written a ++ _)) = _
      rw [hFirst.rewriteSteps_slash, hFirstStep, rewriteSteps_slash, hTail]
      rfl

/-- So it is in front of the first step. -/
theorem rewriteSteps_origin (origin : Origin) (path : List Char) :
    rewriteSteps f (origin.text ++ path) = origin.text ++ rewriteSteps f path := by
  cases origin <;> simp only [Origin.text, List.nil_append, List.cons_append, rewriteSteps_slash]

end Steps

theorem hasAxis_append {a : List Char} (h : ∀ c ∈ a, c ≠ ':') (b : List Char) :
    hasAxis (a ++ b) = hasAxis b := by
  induction a with
  | nil => rfl
  | cons c rest ih =>
    rw [List.cons_append, hasAxis]
    · exact ih fun d hd => h d (List.mem_cons_of_mem _ hd)
    · intro more hColon
      exact absurd hColon (h c List.mem_cons_self)

theorem hasAxis_name (n : PlainName) : hasAxis n.chars = false := by
  have h := hasAxis_append (fun c hc => ne_of_class (n.isPlainChar_of_mem hc) (by decide)) []
  simpa [hasAxis] using h

namespace NameTest

variable (t : NameTest)

theorem hasAxis_written : hasAxis t.written = false := by
  unfold written
  split
  · rename_i q hQualifier
    have hFirst : t.name.first ≠ ':' :=
      ne_of_class (isPlainChar_of_isPlainStart t.name.isStart) (by decide)
    rw [hasAxis_append fun c hc => ne_of_class (q.isPlainChar_of_mem hc) (by decide),
      hasAxis, hasAxis_name]
    intro more _ hMore
    exact absurd (List.cons.inj hMore).1 hFirst
  · exact hasAxis_name t.name

theorem trimmed_written : Text.trimmed t.written = t.written := by
  refine Text.trimmed_of_noBlank fun c hc => ?_
  rcases mem_written hc with rfl | hc
  · decide
  · exact isBlank_of_isPlainChar hc

theorem parse?_written : NameStep.parse? t.written = some t.step := by
  have hNoMark : ∀ (n : PlainName) (b : List Char), ((n.chars ++ b).head? == some '@') = false :=
    fun n b => by
      have hFirst : n.first ≠ '@' :=
        ne_of_class (isPlainChar_of_isPlainStart n.isStart) (by decide)
      simpa [PlainName.chars] using hFirst
  have hName : NameStep.name? t.name.chars = some (t.name.chars, []) := by
    have hAll := t.name.name?_append (show ∀ c ∈ [].head?, NameStep.isNameChar c = false by simp)
    rwa [List.append_nil] at hAll
  unfold NameStep.parse? written step
  cases hQualifier : t.qualifier with
  | none =>
    have hMark := hNoMark t.name []
    rw [List.append_nil] at hMark
    simp [hMark, hName, NameStep.isPredicates]
  | some q =>
    have hFirst : NameStep.name? (q.chars ++ ':' :: t.name.chars) =
        some (q.chars, ':' :: t.name.chars) :=
      q.name?_append (by simp; decide +kernel)
    simp only [hNoMark, Bool.false_eq_true, if_false, hFirst, hName]
    rfl

theorem rewriteStep_written (f : NameStep → List Char) : rewriteStep f t.written = f t.step := by
  have hSome : t.written.isEmpty = false := by
    unfold written
    split <;> simp [PlainName.chars]
  simp [rewriteStep, hSome, t.hasAxis_written, t.trimmed_written, t.parse?_written]

end NameTest

namespace NamePath

variable (f : NameStep → List Char)

theorem rewriteSteps_render (p : NamePath) :
    rewriteSteps f (p.render NameTest.written) = p.render fun t => f t.step := by
  unfold render tail
  rw [rewriteSteps_origin,
    rewriteSteps_slashed (fun t _ => t.keeps_written) fun t _ => t.rewriteStep_written f]

theorem render_unqualified (p : NamePath) :
    p.unqualified.render NameTest.written = p.render fun t => t.name.chars := by
  simp only [render, tail, unqualified, List.flatMap_map]
  rfl

/-- Dropping qualifiers from the text of a path is dropping them from its steps. -/
theorem unqualified_written (p : NamePath) :
    Path.unqualified p.written = p.unqualified.written := by
  rw [Path.unqualified, written, written, String.toList_ofList, rewriteSteps_render,
    render_unqualified]
  simp [NameTest.step, NameStep.unqualified, NameStep.marker]

theorem byLocalName_written (p : NamePath) : Path.byLocalName p.written = p.byLocalName := by
  have hStep : (fun t : NameTest => NameStep.byLocalName t.step) = NameTest.byLocalName := by
    funext t
    unfold NameStep.byLocalName NameTest.byLocalName
    generalize "*[local-name()='".toList = before
    generalize "']".toList = behind
    simp [NameTest.step, NameStep.marker]
  rw [Path.byLocalName, written, byLocalName, String.toList_ofList, rewriteSteps_render, hStep]

end NamePath

end Intake.Path
