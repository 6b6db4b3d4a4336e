import Intake.Proofs.Path.Division
import Intake.Proofs.Path.Location

/-! Rewriting the name steps of any path, well-formed or not. A step that is read as a name step
ends with its predicates, and what stands in front of them is replaced by something that leaves the
scan where it is, so the steps of the rewritten path are the rewritten steps. Hence rewritings of
paths follow each other as those of steps do. -/

namespace Intake.Path

namespace Scan.Keeps

variable {s : Scan} {a b : List Char}

theorem passes_append_iff (h : s.Keeps a) : s.Passes (a ++ b) ↔ s.Passes b := by
  rw [passes_append, h.same, and_iff_right h.passes]

theorem append_iff (h : s.Keeps a) : s.Keeps (a ++ b) ↔ s.Keeps b := by
  refine ⟨fun hBoth => ⟨h.passes_append_iff.mp hBoth.passes, ?_⟩, h.append⟩
  have hSame := hBoth.same
  rwa [through_append, h.same] at hSame

end Scan.Keeps

theorem hasAxis_iff {t : List Char} : hasAxis t ↔ [':', ':'] <:+: t := by
  fun_induction hasAxis t with
  | case1 rest => exact iff_of_true rfl (List.prefix_append [':', ':'] rest).isInfix
  | case2 c rest hOther ih =>
    rw [ih, List.infix_cons_iff]
    refine ⟨.inr, fun h => h.resolve_left ?_⟩
    rintro ⟨more, hMore⟩
    obtain ⟨hFirst, hRest⟩ := List.cons.inj hMore
    exact hOther more hFirst.symm hRest.symm
  | case3 => simp

theorem eq_false_of_any {p : Char → Bool} {t : List Char} (h : t.any p = false) :
    ∀ c ∈ t, p c = false := fun c hc => Bool.eq_false_iff.mpr (List.any_eq_false.mp h c hc)

namespace NameStep

/-- What is read as a name. -/
def IsName (n : List Char) : Prop :=
  ∃ c rest, n = c :: rest ∧ isNameStart c ∧ ∀ d ∈ rest, isNameChar d

/-- What holds of every step that is read. -/
structure IsSound (s : NameStep) : Prop where
  qualifier : ∀ q ∈ s.qualifier, IsName q
  name : IsName s.name
  predicates : isPredicates s.predicates

/-- The qualifier with the colon behind it. -/
def qualification (s : NameStep) : List Char :=
  match s.qualifier with
  | some q => q ++ [':']
  | none => []

/-- The step as it is written. -/
def written (s : NameStep) : List Char := s.marker ++ (s.qualification ++ (s.name ++ s.predicates))

section Names

variable {n t rest : List Char}

theorem isNameChar_of_isNameStart {c : Char} (h : isNameStart c) : isNameChar c :=
  isStepChar_of_isPlainChar (isPlainChar_of_isPlainStart h)

theorem isNameChar_eq_false_of_mem {c : Char} (h : c ∈ ['@', ':', '[']) :
    isNameChar c = false := by
  have hNone : ['@', ':', '['].any isNameChar = false := by decide +kernel
  exact eq_false_of_any hNone c h

theorem IsName.ne_nil (h : IsName n) : n ≠ [] := by
  obtain ⟨c, more, rfl, -⟩ := h
  exact List.cons_ne_nil c more

theorem IsName.isNameChar_of_mem (h : IsName n) {c : Char} (hc : c ∈ n) : isNameChar c := by
  obtain ⟨first, more, rfl, hStart, hMore⟩ := h
  rcases List.mem_cons.mp hc with rfl | hc
  · exact isNameChar_of_isNameStart hStart
  · exact hMore c hc

theorem name?_eq_some (h : name? t = some (n, rest)) : IsName n ∧ t = n ++ rest := by
  cases t with
  | nil => cases h
  | cons c t =>
    rw [name?] at h
    split at h
    · next hStart =>
      cases h
      refine ⟨⟨c, _, rfl, hStart, fun d hd => List.all_eq_true.mp List.all_takeWhile d hd⟩, ?_⟩
      rw [List.cons_append, List.takeWhile_append_dropWhile]
    · cases h

theorem IsName.name?_append (h : IsName n) (hStop : ∀ d ∈ rest.head?, isNameChar d = false) :
    name? (n ++ rest) = some (n, rest) := by
  obtain ⟨c, more, rfl, hStart, hMore⟩ := h
  exact NameStep.name?_append hStart hMore hStop

theorem head?_predicates {p : List Char} (h : isPredicates p) {c : Char} (hc : c ∈ p.head?) :
    c = '[' := by
  cases p with
  | nil => cases hc
  | cons d rest =>
    obtain rfl := Option.some.inj hc
    rw [isPredicates, Bool.and_eq_true_iff, beq_iff_eq] at h
    exact h.1

theorem getLast?_predicates {p : List Char} (h : isPredicates p) {c : Char}
    (hc : c ∈ p.getLast?) : c = ']' := by
  cases p with
  | nil => cases hc
  | cons d rest =>
    rw [isPredicates, Bool.and_eq_true_iff, beq_iff_eq, beq_iff_eq] at h
    rw [List.getLast?_cons, h.2] at hc
    exact (Option.some.inj hc).symm

end Names

section Reading

variable {s : NameStep} {t : List Char}

/-- The marker of an attribute is read by itself. -/
theorem marker_append (t : List Char) :
    t = (if t.head? == some '@' then ['@'] else []) ++
      if t.head? == some '@' then t.drop 1 else t := by
  cases t with
  | nil => rfl
  | cons c rest =>
    by_cases hMark : c = '@'
    · subst hMark
      rfl
    · simp [hMark]

theorem parse?_eq_some (h : parse? t = some s) : s.IsSound ∧ t = s.written := by
  have hText := marker_append t
  unfold parse? at h
  dsimp only at h
  split at h
  · cases h
  · next first rest hRead =>
    obtain ⟨hQualifier, hBody⟩ := name?_eq_some hRead
    split at h
    · cases h
    · next name predicates hRead' =>
      obtain ⟨hName, rfl⟩ := name?_eq_some hRead'
      split at h
      · next hPredicates =>
        cases h
        refine ⟨⟨fun q hq => ?_, hName, hPredicates⟩, ?_⟩
        · obtain rfl := Option.some.inj hq
          exact hQualifier
        · rw [hBody] at hText
          simpa [written, marker, qualification] using hText
      · cases h
  · next name predicates _ hRead =>
    obtain ⟨hName, hBody⟩ := name?_eq_some hRead
    split at h
    · next hPredicates =>
      cases h
      refine ⟨⟨fun q hq => (Option.not_mem_none q hq).elim, hName, hPredicates⟩, ?_⟩
      rw [hBody] at hText
      simpa [written, marker, qualification] using hText
    · cases h

theorem IsName.head?_append {n : List Char} (h : IsName n) (b : List Char) :
    ((n ++ b).head? == some '@') = false := by
  obtain ⟨c, more, rfl, hStart, -⟩ := h
  have hMark : c ≠ '@' := ne_of_class (isNameChar_of_isNameStart hStart)
    (isNameChar_eq_false_of_mem (by decide))
  simpa using hMark

theorem IsSound.name?_predicates (h : s.IsSound) :
    name? (s.name ++ s.predicates) = some (s.name, s.predicates) := by
  refine h.name.name?_append fun d hd => ?_
  rw [head?_predicates h.predicates hd]
  exact isNameChar_eq_false_of_mem (by decide)

/-- A step that has been read is read again as it is written. -/
theorem IsSound.parse?_written (h : s.IsSound) : parse? s.written = some s := by
  have hBody : ((s.qualification ++ (s.name ++ s.predicates)).head? == some '@') = false := by
    unfold qualification
    cases hQualifier : s.qualifier with
    | none => exact h.name.head?_append _
    | some q =>
      dsimp only
      rw [List.append_assoc]
      exact (h.qualifier q hQualifier).head?_append _
  have hHead : (s.written.head? == some '@') = s.isAttribute := LocationStep.head?_marked hBody
  have hDrop : (if s.isAttribute then s.written.drop 1 else s.written) =
      s.qualification ++ (s.name ++ s.predicates) := LocationStep.drop_marked
  have hName := h.name?_predicates
  obtain ⟨isAttribute, qualifier, name, predicates⟩ := s
  cases qualifier with
  | none =>
    have hNoColon : ∀ rest, predicates ≠ ':' :: rest := by
      rintro rest rfl
      have hBracket : ':' = '[' := head?_predicates h.predicates rfl
      exact absurd hBracket (by decide)
    simp only [parse?, hHead, hDrop, qualification, List.nil_append, hName]
    exact if_pos h.predicates
  | some q =>
    have hFirst : name? (q ++ [':'] ++ (name ++ predicates)) =
        some (q, ':' :: (name ++ predicates)) := by
      rw [List.append_assoc]
      refine (h.qualifier q rfl).name?_append fun d hd => ?_
      obtain rfl := Option.some.inj hd
      exact isNameChar_eq_false_of_mem (by decide)
    simp only [parse?, hHead, hDrop, qualification, hFirst, hName]
    exact if_pos h.predicates

end Reading

end NameStep

/-- A step that is read as a name step. -/
structure ReadAs (t : List Char) (s : NameStep) : Prop where
  isSound : s.IsSound
  noAxis : hasAxis t = false
  trimmed_eq : Text.trimmed t = s.written

/-- A text without blanks that leaves the scan where it is. -/
structure IsSolid (a : List Char) : Prop where
  keeps : Scan.start.Keeps a
  noBlank : ∀ c ∈ a, Text.isBlank c = false

/-- A rewriting that puts something else in front of the predicates, and leaves them as they are. -/
def KeepsPredicates (f : NameStep → List Char) : Prop :=
  ∀ s : NameStep, s.IsSound → ∃ front, f s = front ++ s.predicates ∧ front ≠ [] ∧ IsSolid front

section Steps

variable {s : NameStep} {t : List Char} {f g k : NameStep → List Char}

/-- Either a step is read and rewritten, or every rewriting leaves it as it is. -/
theorem readAs_cases (t : List Char) :
    (∃ s, ReadAs t s ∧ ∀ f, rewriteStep f t = f s) ∨ ∀ f, rewriteStep f t = t := by
  cases hSkipped : (t.isEmpty || hasAxis t) with
  | true => exact .inr fun f => if_pos hSkipped
  | false =>
    cases hRead : NameStep.parse? (Text.trimmed t) with
    | none =>
      refine .inr fun f => ?_
      simp only [rewriteStep, hSkipped, hRead, Bool.false_eq_true, if_false]
    | some s =>
      obtain ⟨hSound, hText⟩ := NameStep.parse?_eq_some hRead
      refine .inl ⟨s, ⟨hSound, (Bool.or_eq_false_iff.mp hSkipped).2, hText⟩, fun f => ?_⟩
      simp only [rewriteStep, hSkipped, hRead, Bool.false_eq_true, if_false]

theorem NameStep.IsSound.written_ne_nil (hSound : s.IsSound) : s.written ≠ [] := by
  simp [written, hSound.name.ne_nil]

theorem ReadAs.rewriteStep_eq (hRead : ReadAs t s) : rewriteStep f t = f s := by
  have hSome : t.isEmpty = false := by
    rw [List.isEmpty_eq_false_iff]
    rintro rfl
    exact hRead.isSound.written_ne_nil hRead.trimmed_eq.symm
  simp only [rewriteStep, hSome, hRead.noAxis, hRead.trimmed_eq, hRead.isSound.parse?_written,
    Bool.or_self, Bool.false_eq_true, if_false]

theorem IsSolid.nil : IsSolid [] := ⟨⟨trivial, rfl⟩, List.forall_mem_nil _⟩

theorem IsSolid.append {a b : List Char} (ha : IsSolid a) (hb : IsSolid b) : IsSolid (a ++ b) :=
  ⟨ha.keeps.append hb.keeps, List.forall_mem_append.mpr ⟨ha.noBlank, hb.noBlank⟩⟩

theorem IsSolid.singleton {c : Char} (hInner : IsInner c) (hBlank : Text.isBlank c = false) :
    IsSolid [c] :=
  ⟨.of_inner (List.forall_mem_singleton.mpr hInner), List.forall_mem_singleton.mpr hBlank⟩

theorem NameStep.mem_marker {c : Char} (hc : c ∈ s.marker) : c = '@' := by
  unfold marker at hc
  split at hc
  · exact List.mem_singleton.mp hc
  · cases hc

theorem NameStep.isSolid_marker (s : NameStep) : IsSolid s.marker := by
  unfold marker
  split
  · exact .singleton ⟨by decide, by decide⟩ (by decide)
  · exact .nil

theorem NameStep.IsName.isSolid {n : List Char} (hName : IsName n) : IsSolid n where
  keeps := .of_inner fun _ hc => isInner_of_class (by decide +kernel) (hName.isNameChar_of_mem hc)
  noBlank _ hc := LocationStep.isBlank_of_isNameChar (hName.isNameChar_of_mem hc)

theorem NameStep.IsSound.isSolid_qualification (hSound : s.IsSound) : IsSolid s.qualification := by
  unfold qualification
  split
  · next q hQualifier =>
    exact (hSound.qualifier q hQualifier).isSolid.append
      (.singleton ⟨by decide, by decide⟩ (by decide))
  · exact .nil

/-- The predicates of a step and the blanks behind them are met by the scan where the step is. -/
theorem ReadAs.exists_front (hRead : ReadAs t s) : ∃ front blanks,
    t = front ++ (s.predicates ++ blanks) ∧ Scan.start.Keeps front ∧
      ∀ c ∈ blanks, Text.isBlank c := by
  obtain ⟨before, blanks, hText, hBefore, hBlanks⟩ := Text.exists_trimmed t
  refine ⟨before ++ (s.marker ++ (s.qualification ++ s.name)), blanks, ?_, ?_, hBlanks⟩
  · rw [hText, hRead.trimmed_eq, NameStep.written]
    simp only [List.append_assoc]
  · have hSolid := s.isSolid_marker.append
      (hRead.isSound.isSolid_qualification.append hRead.isSound.name.isSolid)
    exact .append (.of_inner fun c hc => isInner_of_class (by decide) (hBefore c hc)) hSolid.keeps

/-- Nothing of a step but its predicates can let a slash separate it. -/
theorem KeepsPredicates.passes (hf : KeepsPredicates f) (hPasses : Scan.start.Passes t) :
    Scan.start.Passes (rewriteStep f t) := by
  rcases readAs_cases t with ⟨s, hRead, hRewritten⟩ | hSame
  · obtain ⟨front, blanks, rfl, hFront, -⟩ := hRead.exists_front
    obtain ⟨front', hText, -, hFront'⟩ := hf s hRead.isSound
    have hPredicates := Scan.passes_append.mp (hFront.passes_append_iff.mp hPasses)
    rw [hRewritten, hText]
    exact hFront'.keeps.passes_append_iff.mpr hPredicates.1
  · rwa [hSame]

theorem KeepsPredicates.keeps (hf : KeepsPredicates f) (hKeeps : Scan.start.Keeps t) :
    Scan.start.Keeps (rewriteStep f t) := by
  rcases readAs_cases t with ⟨s, hRead, hRewritten⟩ | hSame
  · obtain ⟨front, blanks, rfl, hFront, hBlanks⟩ := hRead.exists_front
    obtain ⟨front', hText, -, hFront'⟩ := hf s hRead.isSound
    rw [hRewritten, hText]
    exact hFront'.keeps.append (Scan.Keeps.of_append_blanks hBlanks (hFront.append_iff.mp hKeeps))
  · rwa [hSame]

theorem KeepsPredicates.isEmpty (hf : KeepsPredicates f) (t : List Char) :
    (rewriteStep f t).isEmpty = t.isEmpty := by
  rcases readAs_cases t with ⟨s, hRead, hRewritten⟩ | hSame
  · obtain ⟨front, hText, hSome, -⟩ := hf s hRead.isSound
    have hStep : t ≠ [] := by
      rintro rfl
      exact hRead.isSound.written_ne_nil hRead.trimmed_eq.symm
    rw [hRewritten, hText, List.isEmpty_eq_false_iff.mpr hStep, List.isEmpty_eq_false_iff]
    exact List.append_ne_nil_of_left_ne_nil hSome _
  · rw [hSame]

/-- No blanks are around a rewritten step. -/
theorem KeepsPredicates.trimmed (hf : KeepsPredicates f) (hSound : s.IsSound) :
    Text.trimmed (f s) = f s := by
  obtain ⟨front, hText, hSome, hFront⟩ := hf s hSound
  have hLast : ∀ c, s.predicates.getLast? = some c → Text.isBlank c = false := by
    intro c hc
    rw [NameStep.getLast?_predicates hSound.predicates hc]
    decide
  rw [hText, Text.trimmed_append hSome (fun c hc => hFront.noBlank c (List.mem_of_head? hc))
    fun c hc => hFront.noBlank c (List.mem_of_getLast? hc), Text.dropEnd_eq_self hLast]

/-- The steps of a rewritten path are the rewritten steps. -/
theorem KeepsPredicates.steps_rewriteSteps (hf : KeepsPredicates f) (path : List Char) :
    steps (rewriteSteps f path) = (steps path).map (rewriteStep f) := by
  obtain ⟨init, last, ⟨hKeeps, hLast⟩, hSteps, -⟩ := exists_steps path
  have hRewritten : AreSteps (init.map (rewriteStep f)) (rewriteStep f last) :=
    ⟨List.forall_mem_map.mpr fun t ht => hf.keeps (hKeeps t ht), hf.passes hLast⟩
  rw [rewriteSteps, hSteps, List.map_append, List.map_singleton, hRewritten.steps_joined]

/-- Two rewritings of a path are one, if they are one of every step. -/
theorem KeepsPredicates.rewriteSteps_rewriteSteps (hf : KeepsPredicates f)
    (hStep : ∀ t, rewriteStep g (rewriteStep f t) = rewriteStep k t) (path : List Char) :
    rewriteSteps g (rewriteSteps f path) = rewriteSteps k path := by
  rw [rewriteSteps, hf.steps_rewriteSteps, List.map_map, rewriteSteps]
  exact congrArg (Text.joined ['/']) (List.map_congr_left fun t _ => hStep t)

theorem KeepsPredicates.map_isEmpty (hf : KeepsPredicates f) (path : List Char) :
    (steps (rewriteSteps f path)).map List.isEmpty = (steps path).map List.isEmpty := by
  rw [hf.steps_rewriteSteps, List.map_map]
  exact List.map_congr_left fun t _ => hf.isEmpty t

end Steps

section Rewritings

variable {s : NameStep} {t : List Char} {f : NameStep → List Char}

theorem keepsPredicates_unqualified : KeepsPredicates NameStep.unqualified := fun s hSound =>
  ⟨s.marker ++ s.name, rfl, List.append_ne_nil_of_right_ne_nil _ hSound.name.ne_nil,
    s.isSolid_marker.append hSound.name.isSolid⟩

/-- A comparison of local names is a predicate itself. -/
theorem NameStep.IsName.isSolid_comparison {n : List Char} (hName : IsName n) :
    IsSolid ("[local-name()='".toList ++ (n ++ "']".toList)) := by
  have hMark : '\'' ∉ n := fun hc =>
    absurd (hName.isNameChar_of_mem hc) (by decide +kernel)
  have hInner : Balanced ("local-name()=".toList ++ '\'' :: (n ++ ['\''])) :=
    .append (.append (.plain (a := "local-name".toList) (by decide))
      (.append (.parentheses (a := []) (.plain rfl)) (.plain (a := ['=']) (by decide))))
      (.literal (.inl rfl) hMark)
  refine ⟨?_, ?_⟩
  · have hKeeps := Predicate.keeps_written ⟨_, hInner⟩
    simpa [Predicate.written] using hKeeps
  · refine List.forall_mem_append.mpr ⟨eq_false_of_any (by decide), ?_⟩
    exact List.forall_mem_append.mpr ⟨hName.isSolid.noBlank, eq_false_of_any (by decide)⟩

theorem keepsPredicates_byLocalName : KeepsPredicates NameStep.byLocalName := by
  intro s hSound
  have hStar : IsSolid ['*'] := .singleton ⟨by decide, by decide⟩ (by decide)
  refine ⟨_, ?_, ?_, s.isSolid_marker.append (hStar.append hSound.name.isSolid_comparison)⟩
  · simp [NameStep.byLocalName]
  · simp

/-- A star is not a name. -/
theorem NameStep.parse?_byLocalName (s : NameStep) : parse? s.byLocalName = none := by
  obtain ⟨isAttribute, _, _, _⟩ := s
  cases isAttribute <;> rfl

/-- What is compared by local names is not rewritten again. -/
theorem NameStep.IsSound.rewriteStep_byLocalName (hSound : s.IsSound) :
    rewriteStep f s.byLocalName = s.byLocalName := by
  rw [rewriteStep, keepsPredicates_byLocalName.trimmed hSound, s.parse?_byLocalName]
  exact ite_self _

/-- An axis in the predicates is one in the step. -/
theorem ReadAs.hasAxis_predicates (hRead : ReadAs t s) : hasAxis s.predicates = false := by
  obtain ⟨front, blanks, rfl, -, -⟩ := hRead.exists_front
  refine Bool.eq_false_iff.mpr fun hAxis => ?_
  have hInfix : s.predicates <:+: front ++ (s.predicates ++ blanks) :=
    ⟨front, blanks, List.append_assoc _ _ _⟩
  exact Bool.eq_false_iff.mp hRead.noAxis (hasAxis_iff.mpr ((hasAxis_iff.mp hAxis).trans hInfix))

/-- What has no qualifier is read again. -/
theorem ReadAs.unqualified (hRead : ReadAs t s) :
    ReadAs s.unqualified { s with qualifier := none } where
  isSound := ⟨nofun, hRead.isSound.name, hRead.isSound.predicates⟩
  noAxis := by
    have hFront : ∀ c ∈ s.marker ++ s.name, c ≠ ':' := by
      intro c hc
      rcases List.mem_append.mp hc with hc | hc
      · rw [NameStep.mem_marker hc]
        decide
      · exact ne_of_class (hRead.isSound.name.isNameChar_of_mem hc)
          (NameStep.isNameChar_eq_false_of_mem (by decide))
    rw [NameStep.unqualified, hasAxis_append hFront, hRead.hasAxis_predicates]
  trimmed_eq := by
    rw [keepsPredicates_unqualified.trimmed hRead.isSound]
    simp [NameStep.unqualified, NameStep.written, NameStep.marker, NameStep.qualification]

theorem rewriteStep_unqualified (hf : ∀ s : NameStep, f { s with qualifier := none } = f s)
    (t : List Char) : rewriteStep f (rewriteStep NameStep.unqualified t) = rewriteStep f t := by
  rcases readAs_cases t with ⟨s, hRead, hRewritten⟩ | hSame
  · rw [hRewritten, hRewritten, hRead.unqualified.rewriteStep_eq, hf]
  · rw [hSame NameStep.unqualified]

theorem rewriteStep_byLocalName (t : List Char) :
    rewriteStep f (rewriteStep NameStep.byLocalName t) = rewriteStep NameStep.byLocalName t := by
  rcases readAs_cases t with ⟨s, hRead, hRewritten⟩ | hSame
  · rw [hRewritten, hRead.isSound.rewriteStep_byLocalName]
  · rw [hSame NameStep.byLocalName, hSame f]

end Rewritings

/-- Any path is without qualifiers once they have been dropped, and compares local names once it has
been made to. Dropping qualifiers first changes nothing of the comparisons, and they have none to
drop. Neither rewriting changes how many steps there are or which of them are empty, so a slash at
the beginning and the double slashes stay where they are. -/
theorem rewrites_compose (path : String) :
    (unqualified (unqualified path) = unqualified path ∧
      byLocalName (byLocalName path) = byLocalName path ∧
      byLocalName (unqualified path) = byLocalName path ∧
      unqualified (byLocalName path) = byLocalName path) ∧
    (steps (unqualified path).toList).map List.isEmpty = (steps path.toList).map List.isEmpty ∧
    (steps (byLocalName path).toList).map List.isEmpty = (steps path.toList).map List.isEmpty := by
  simp only [unqualified, byLocalName, String.toList_ofList, String.ofList_inj]
  refine ⟨⟨?_, ?_, ?_, ?_⟩, ?_, ?_⟩
  · exact keepsPredicates_unqualified.rewriteSteps_rewriteSteps
      (rewriteStep_unqualified fun _ => rfl) _
  · exact keepsPredicates_byLocalName.rewriteSteps_rewriteSteps rewriteStep_byLocalName _
  · exact keepsPredicates_unqualified.rewriteSteps_rewriteSteps
      (rewriteStep_unqualified fun _ => rfl) _
  · exact keepsPredicates_byLocalName.rewriteSteps_rewriteSteps rewriteStep_byLocalName _
  · exact keepsPredicates_unqualified.map_isEmpty _
  · exact keepsPredicates_byLocalName.map_isEmpty _

/-- The literal in the last step is never closed. -/
example : byLocalName (unqualified "/a:x//b:y['/c:z]") =
    "/*[local-name()='x']//*[local-name()='y']['/c:z]" := by
  decide +kernel

end Intake.Path
