import Intake.Path.NameStep

/-! How the scan of a path goes through a text. A text that it goes through without meeting a slash
between steps, and that leaves no literal and no bracket open, stands in one step, whatever
characters it has; a path of such texts and slashes is rewritten text by text. -/

namespace Intake.Path

namespace Scan

/-- No slash of the text separates steps, if the scan meets the text here. -/
def Passes (s : Scan) : List Char → Prop
  | [] => True
  | c :: rest => (c = '/' → s.isOpen = false) ∧ (s.next c).Passes rest

theorem through_cons (s : Scan) (c : Char) (rest : List Char) :
    s.through (c :: rest) = (s.next c).through rest := rfl

theorem through_append (s : Scan) (a b : List Char) :
    s.through (a ++ b) = (s.through a).through b := List.foldl_append

theorem passes_append {s : Scan} {a b : List Char} :
    s.Passes (a ++ b) ↔ s.Passes a ∧ (s.through a).Passes b := by
  induction a generalizing s with
  | nil => simp [Passes, through]
  | cons c rest ih => rw [List.cons_append, Passes, Passes, ih, through_cons, and_assoc]

end Scan

/-- The characters of a text that a scan passes go in front of the next step. -/
theorem stepsFrom_append {s : Scan} {a : List Char} (h : s.Passes a) (b : List Char) :
    stepsFrom s (a ++ b) = a.foldr Text.consHead (stepsFrom (s.through a) b) := by
  induction a generalizing s with
  | nil => rfl
  | cons c rest ih =>
    obtain ⟨hSlash, hRest⟩ := h
    have hInner : (c = '/' && s.isOpen) = false := by
      rw [Bool.and_eq_false_iff, decide_eq_false_iff_not]
      by_cases hc : c = '/'
      · exact .inr (hSlash hc)
      · exact .inl hc
    rw [List.cons_append, stepsFrom, hInner, if_neg Bool.false_ne_true, ih hRest, List.foldr_cons,
      Scan.through_cons]

theorem foldr_consHead (a first : List Char) (rest : List (List Char)) :
    a.foldr Text.consHead (first :: rest) = (a ++ first) :: rest := by
  induction a with
  | nil => rfl
  | cons c a ih => rw [List.foldr_cons, ih, Text.consHead, List.cons_append]

theorem steps_ne_nil (path : List Char) : steps path ≠ [] := by
  unfold steps
  cases path with
  | nil => simp [stepsFrom]
  | cons c rest =>
    rw [stepsFrom]
    split
    · simp
    · cases stepsFrom (Scan.start.next c) rest <;> simp [Text.consHead]

theorem joined_cons_cons (sep : List Char) (a b : List Char) (more : List (List Char)) :
    Text.joined sep (a :: b :: more) = a ++ sep ++ Text.joined sep (b :: more) := rfl

/-- A character that stands in a step wherever it is. -/
def IsInner (c : Char) : Prop := c ≠ '/' ∧ Scan.start.next c = .start

theorem isInner_of_class {p : Char → Bool}
    (hMarks : ['/', '\'', '"', '[', '(', ']', ')'].any p = false) {c : Char} (h : p c) :
    IsInner c := by
  have hNe : ∀ d ∈ ['/', '\'', '"', '[', '(', ']', ')'], c ≠ d := by
    rintro d hd rfl
    exact List.any_eq_false.mp hMarks c hd h
  simp only [List.forall_mem_cons, List.not_mem_nil, false_implies, implies_true, and_true] at hNe
  exact ⟨hNe.1, by simp [Scan.start, Scan.next, hNe]⟩

/-- A text without a slash between steps that leaves the scan where it is. -/
structure Scan.Keeps (s : Scan) (a : List Char) : Prop where
  passes : s.Passes a
  same : s.through a = s

namespace Scan.Keeps

variable {s : Scan} {a b : List Char}

theorem append (ha : s.Keeps a) (hb : s.Keeps b) : s.Keeps (a ++ b) where
  passes := by
    rw [passes_append, ha.same]
    exact ⟨ha.passes, hb.passes⟩
  same := by rw [through_append, ha.same, hb.same]

theorem of_forall (h : ∀ c ∈ a, (c = '/' → s.isOpen = false) ∧ s.next c = s) : s.Keeps a := by
  induction a with
  | nil => exact ⟨trivial, rfl⟩
  | cons c rest ih =>
    obtain ⟨⟨hSlash, hNext⟩, hRest⟩ := List.forall_mem_cons.mp h
    obtain ⟨hPasses, hSame⟩ := ih hRest
    refine ⟨⟨hSlash, ?_⟩, ?_⟩
    · rwa [hNext]
    · rwa [through_cons, hNext]

theorem of_inner (h : ∀ c ∈ a, IsInner c) : Scan.start.Keeps a :=
  of_forall fun c hc => ⟨fun hSlash => absurd hSlash (h c hc).1, (h c hc).2⟩

theorem flatMap {α : Type} {f : α → List Char} {l : List α} (h : ∀ x ∈ l, s.Keeps (f x)) :
    s.Keeps (l.flatMap f) := by
  induction l with
  | nil => exact ⟨trivial, rfl⟩
  | cons x rest ih =>
    obtain ⟨hFirst, hRest⟩ := List.forall_mem_cons.mp h
    exact hFirst.append (ih hRest)

/-- Between two marks the scan is elsewhere, and the second mark takes it back. -/
theorem enclosed {opening closing : Char} (hMarks : opening ≠ '/' ∧ closing ≠ '/')
    (hInner : (s.next opening).Keeps a) (hBack : (s.next opening).next closing = s) :
    s.Keeps (opening :: (a ++ [closing])) where
  passes := by
    refine ⟨fun hSlash => absurd hSlash hMarks.1, ?_⟩
    rw [passes_append, hInner.same]
    exact ⟨hInner.passes, fun hSlash => absurd hSlash hMarks.2, trivial⟩
  same := by
    rw [through_cons, through_append, hInner.same, through_cons, hBack]
    rfl

end Scan.Keeps

namespace Scan.Keeps

variable {a : List Char} {f : NameStep → List Char}

theorem steps_eq (h : Scan.start.Keeps a) : steps a = [a] := by
  have hSteps := stepsFrom_append h.passes []
  rw [List.append_nil, h.same, stepsFrom, foldr_consHead, List.append_nil] at hSteps
  exact hSteps

theorem steps_slash (h : Scan.start.Keeps a) (b : List Char) :
    steps (a ++ '/' :: b) = a :: steps b := by
  have hOpen : stepsFrom .start ('/' :: b) = [] :: stepsFrom .start b := rfl
  rw [steps, stepsFrom_append h.passes, h.same, hOpen, foldr_consHead, List.append_nil, steps]

theorem rewriteSteps_eq (h : Scan.start.Keeps a) : rewriteSteps f a = rewriteStep f a := by
  rw [rewriteSteps, h.steps_eq]
  rfl

theorem rewriteSteps_slash (h : Scan.start.Keeps a) (b : List Char) :
    rewriteSteps f (a ++ '/' :: b) = rewriteStep f a ++ '/' :: rewriteSteps f b := by
  obtain ⟨step, more, hSteps⟩ := List.exists_cons_of_ne_nil (steps_ne_nil b)
  rw [rewriteSteps, h.steps_slash, rewriteSteps, hSteps, List.map_cons, List.map_cons,
    joined_cons_cons, List.append_assoc]
  rfl

end Scan.Keeps

variable {f : NameStep → List Char}

@[simp] theorem rewriteStep_nil : rewriteStep f [] = [] := rfl

theorem rewriteSteps_slash (b : List Char) :
    rewriteSteps f ('/' :: b) = '/' :: rewriteSteps f b := by
  have hNone : Scan.start.Keeps [] := ⟨trivial, rfl⟩
  simpa using hNone.rewriteSteps_slash b

end Intake.Path
