import Intake.Path.Steps
import Intake.Proofs.Path.Scan
import Intake.Proofs.Text.Parts

/-! A path as its steps. All of them but the last leave the scan as it was at the start, and texts
that do so are the steps of the path that they make up with slashes between them. Blanks and slashes
leave a scan where it is, so no slash stands at the end of a step that another one follows, nor at
the beginning of any step, be it behind or in front of blanks. A slash between two paths separates
steps exactly if it stands outside of literals and at depth 0. -/

namespace Intake.Path

namespace Scan

theorem isOpen_iff {s : Scan} : s.isOpen = true ↔ s = start := by
  obtain ⟨literal, depth⟩ := s
  simp [isOpen, start]

/-- No literal is open but one of quotation marks. -/
def Quoted (s : Scan) : Prop := ∀ mark, s.literal = some mark → mark = '\'' ∨ mark = '"'

theorem quoted_start : start.Quoted := fun _ h => nomatch h

theorem Quoted.next {s : Scan} (h : s.Quoted) (c : Char) : (s.next c).Quoted := by
  intro mark hMark
  unfold Scan.next at hMark
  split at hMark
  · split at hMark
    · cases hMark
    · exact h mark hMark
  · next hNone =>
    split at hMark
    · next hQuote =>
      obtain rfl : c = mark := Option.some.inj hMark
      simpa using hQuote
    · split at hMark
      · exact h mark hMark
      · split at hMark <;> exact h mark hMark

theorem Quoted.through {s : Scan} (h : s.Quoted) (path : List Char) : (s.through path).Quoted := by
  induction path generalizing s with
  | nil => exact h
  | cons c rest ih => exact ih (h.next c)

/-- A slash or a blank opens and closes nothing. -/
theorem Quoted.next_eq {s : Scan} (h : s.Quoted) {c : Char} (hc : c = '/' ∨ Text.isBlank c) :
    s.next c = s := by
  have hOther {d : Char} (hd : d ≠ '/' ∧ Text.isBlank d = false) : c ≠ d := by
    rintro rfl
    rcases hc with hSlash | hBlank
    · exact hd.1 hSlash
    · rw [hd.2] at hBlank
      cases hBlank
  have hMarks : c ≠ '\'' ∧ c ≠ '"' ∧ c ≠ '[' ∧ c ≠ '(' ∧ c ≠ ']' ∧ c ≠ ')' :=
    ⟨hOther (by decide), hOther (by decide), hOther (by decide), hOther (by decide),
      hOther (by decide), hOther (by decide)⟩
  obtain ⟨hSingle, hDouble, hMore⟩ := hMarks
  unfold Scan.next
  split
  · next mark hLiteral =>
    refine if_neg ?_
    rintro rfl
    rcases h c hLiteral with rfl | rfl
    · exact hSingle rfl
    · exact hDouble rfl
  · simp [hSingle, hDouble, hMore]

theorem Quoted.through_eq {s : Scan} (h : s.Quoted) {t : List Char}
    (ht : ∀ c ∈ t, c = '/' ∨ Text.isBlank c) : s.through t = s := by
  induction t with
  | nil => rfl
  | cons c rest ih =>
    obtain ⟨hFirst, hRest⟩ := List.forall_mem_cons.mp ht
    rw [through_cons, h.next_eq hFirst, ih hRest]

section Blanks

variable {blanks t : List Char} (hBlanks : ∀ c ∈ blanks, Text.isBlank c)

include hBlanks

theorem start_through_blanks : start.through blanks = start :=
  quoted_start.through_eq fun c hc => .inr (hBlanks c hc)

/-- A step does not begin with a slash, not even behind blanks. -/
theorem not_passes_slash : ¬start.Passes (blanks ++ '/' :: t) := by
  intro h
  have hSlash := (passes_append.mp h).2.1 rfl
  rw [start_through_blanks hBlanks] at hSlash
  cases hSlash

/-- A step that another one follows does not end with a slash, not even in front of blanks. -/
theorem not_keeps_slash : ¬start.Keeps (t ++ '/' :: blanks) := by
  intro h
  have hSlash : (start.through t).isOpen = false := (passes_append.mp h.passes).2.1 rfl
  have hThrough : (start.through t).through ('/' :: blanks) = start.through t :=
    (quoted_start.through t).through_eq fun c hc => (List.mem_cons.mp hc).imp_right (hBlanks c)
  have hSame := h.same
  rw [through_append, hThrough] at hSame
  rw [hSame] at hSlash
  cases hSlash

/-- A step that another one follows leaves the scan at the start without its closing blanks, too. -/
theorem Keeps.of_append_blanks (h : start.Keeps (t ++ blanks)) : start.Keeps t where
  passes := (passes_append.mp h.passes).1
  same := by
    have hSame := h.same
    rwa [through_append, (quoted_start.through t).through_eq fun c hc => .inr (hBlanks c hc)] at hSame

end Blanks

end Scan

/-- Texts that are steps of a path in this order, `last` being the last one. -/
structure AreSteps (init : List (List Char)) (last : List Char) : Prop where
  keeps : ∀ s ∈ init, Scan.start.Keeps s
  passes : Scan.start.Passes last

section Steps

variable {init : List (List Char)} {last path : List Char}

theorem joined_cons {a : List Char} {more : List (List Char)} (h : more ≠ []) :
    Text.joined ['/'] (a :: more) = a ++ '/' :: Text.joined ['/'] more := by
  obtain ⟨next, rest, rfl⟩ := List.exists_cons_of_ne_nil h
  rw [joined_cons_cons, List.append_assoc]
  rfl

theorem joined_append {a b : List (List Char)} (ha : a ≠ []) (hb : b ≠ []) :
    Text.joined ['/'] (a ++ b) = Text.joined ['/'] a ++ '/' :: Text.joined ['/'] b := by
  induction a with
  | nil => exact absurd rfl ha
  | cons first more ih =>
    cases more with
    | nil => exact joined_cons hb
    | cons second more =>
      rw [List.cons_append, joined_cons (by simp), joined_cons (List.cons_ne_nil _ _),
        ih (List.cons_ne_nil _ _), List.append_assoc]
      rfl

theorem AreSteps.steps_joined (h : AreSteps init last) :
    steps (Text.joined ['/'] (init ++ [last])) = init ++ [last] := by
  have hLast : steps last = [last] := by
    have hSteps := stepsFrom_append h.passes []
    rwa [List.append_nil, stepsFrom, foldr_consHead, List.append_nil] at hSteps
  obtain ⟨hKeeps, -⟩ := h
  induction init with
  | nil => exact hLast
  | cons first init ih =>
    obtain ⟨hFirst, hRest⟩ := List.forall_mem_cons.mp hKeeps
    rw [List.cons_append, joined_cons (by simp), hFirst.steps_slash, ih hRest]

/-- A text stands in one step, or a slash that separates steps ends the first of them. -/
theorem stepsFrom_cases (s : Scan) (path : List Char) :
    (s.Passes path ∧ stepsFrom s path = [path]) ∨
      ∃ first rest, path = first ++ '/' :: rest ∧ s.Passes first ∧ s.through first = .start ∧
        stepsFrom s path = first :: steps rest := by
  induction path generalizing s with
  | nil => exact .inl ⟨trivial, rfl⟩
  | cons c rest ih =>
    rw [stepsFrom]
    split
    · next hOpen =>
      obtain ⟨hSlash, hOpen⟩ := Bool.and_eq_true_iff.mp hOpen
      obtain rfl := of_decide_eq_true hSlash
      obtain rfl := Scan.isOpen_iff.mp hOpen
      exact .inr ⟨[], rest, rfl, trivial, rfl, rfl⟩
    · next hInner =>
      have hSlash : c = '/' → s.isOpen = false := by
        rintro rfl
        simpa using hInner
      rcases ih (s.next c) with ⟨hPasses, hSteps⟩ | ⟨first, more, rfl, hPasses, hStart, hSteps⟩
      · exact .inl ⟨⟨hSlash, hPasses⟩, by rw [hSteps]; rfl⟩
      · exact .inr ⟨c :: first, more, rfl, ⟨hSlash, hPasses⟩, hStart, by rw [hSteps]; rfl⟩

/-- Every path is made of its steps. -/
theorem exists_steps (path : List Char) : ∃ init last, AreSteps init last ∧
    steps path = init ++ [last] ∧ Text.joined ['/'] (init ++ [last]) = path := by
  -- Behind a slash that separates steps the scan is at the start again, with a shorter path.
  induction hLength : path.length using Nat.strongRecOn generalizing path with
  | ind n ih =>
    rcases stepsFrom_cases .start path with
      ⟨hPasses, hSteps⟩ | ⟨first, rest, rfl, hPasses, hStart, hSteps⟩
    · exact ⟨[], path, ⟨List.forall_mem_nil _, hPasses⟩, hSteps, rfl⟩
    · have hShorter : rest.length < n := by
        rw [← hLength, List.length_append, List.length_cons]
        omega
      obtain ⟨init, last, ⟨hKeeps, hLast⟩, hRest, hJoined⟩ := ih _ hShorter rest rfl
      refine ⟨first :: init, last, ⟨List.forall_mem_cons.mpr ⟨⟨hPasses, hStart⟩, hKeeps⟩, hLast⟩,
        ?_, ?_⟩
      · rw [steps, hSteps, hRest, List.cons_append]
      · rw [List.cons_append, joined_cons (by simp), hJoined]

theorem joined_steps (path : List Char) : Text.joined ['/'] (steps path) = path := by
  obtain ⟨init, last, -, hSteps, hJoined⟩ := exists_steps path
  rw [hSteps, hJoined]

theorem areSteps_of_steps (h : steps path = init ++ [last]) : AreSteps init last := by
  obtain ⟨init', last', hSteps, hPath, -⟩ := exists_steps path
  rw [h] at hPath
  obtain ⟨rfl, hLast⟩ := List.append_inj' hPath rfl
  exact List.singleton_inj.mp hLast ▸ hSteps

/-- Empty steps are made by slashes alone. -/
theorem joined_slashes {a : List (List Char)} (ha : a ≠ []) (k : Nat) (last : List Char) :
    Text.joined ['/'] (a ++ List.replicate k [] ++ [last]) =
      Text.joined ['/'] a ++ List.replicate (k + 1) '/' ++ last := by
  induction k generalizing a with
  | zero =>
    rw [List.replicate_zero, List.append_nil, joined_append ha (List.cons_ne_nil _ _)]
    simp [Text.joined]
  | succ k ih =>
    have hOne : a ++ List.replicate (k + 1) [] ++ [last] =
        (a ++ [[]]) ++ List.replicate k [] ++ [last] := by
      simp [List.replicate_succ]
    rw [hOne, ih (by simp), joined_append ha (List.cons_ne_nil _ _)]
    simp [Text.joined, List.replicate_succ]

end Steps

section Dangling

variable {a : List (List Char)}

theorem exists_dangling (a : List (List Char)) :
    ∃ k, a = withoutDangling a ++ List.replicate k [] := by
  refine ⟨(a.reverse.takeWhile List.isEmpty).length, ?_⟩
  have hEmpty : ∀ s ∈ a.reverse.takeWhile List.isEmpty, s = [] := fun s hs =>
    List.isEmpty_iff.mp (List.all_eq_true.mp List.all_takeWhile s hs)
  have hParts := congrArg List.reverse
    (List.takeWhile_append_dropWhile (p := List.isEmpty) (l := a.reverse))
  rwa [List.reverse_append, List.reverse_reverse, List.eq_replicate_of_mem hEmpty,
    List.reverse_replicate, eq_comm] at hParts

theorem getLast?_withoutDangling (a : List (List Char)) :
    (withoutDangling a).getLast? ≠ some [] := by
  intro h
  rw [withoutDangling, List.getLast?_reverse] at h
  simpa [h] using List.head?_dropWhile_not List.isEmpty a.reverse

theorem withoutDangling_append (h : a.getLast? ≠ some []) (k : Nat) :
    withoutDangling (a ++ List.replicate k []) = a := by
  have hEmpty : ∀ s ∈ List.replicate k ([] : List Char), s.isEmpty = true := fun s hs => by
    rw [List.eq_of_mem_replicate hs]
    rfl
  have hKept : a.reverse.dropWhile List.isEmpty = a.reverse := by
    rw [← List.head?_reverse] at h
    cases hReverse : a.reverse with
    | nil => rfl
    | cons s more =>
      have hSome : s ≠ [] := fun hNone => h (by rw [hReverse, hNone]; rfl)
      simp [hSome]
  rw [withoutDangling, List.reverse_append, List.reverse_replicate,
    List.dropWhile_append_of_pos hEmpty, hKept, List.reverse_reverse]

end Dangling

section Append

variable {init : List (List Char)} {last path : List Char}

/-- The scan of a path ends where that of its last step does. -/
theorem AreSteps.through_joined (h : AreSteps init last) :
    Scan.start.through (Text.joined ['/'] (init ++ [last])) = Scan.start.through last := by
  obtain ⟨hKeeps, -⟩ := h
  induction init with
  | nil => rfl
  | cons first init ih =>
    obtain ⟨hFirst, hRest⟩ := List.forall_mem_cons.mp hKeeps
    have hSlash : Scan.start.next '/' = Scan.start := rfl
    rw [List.cons_append, joined_cons (by simp), Scan.through_append, hFirst.same,
      Scan.through_cons, hSlash, ih hRest]

/-- What follows a path is read on from its last step. -/
theorem AreSteps.steps_append (h : AreSteps init last) (b : List Char) :
    steps (Text.joined ['/'] (init ++ [last]) ++ b) =
      init ++ last.foldr Text.consHead (stepsFrom (Scan.start.through last) b) := by
  obtain ⟨hKeeps, hLast⟩ := h
  induction init with
  | nil => exact stepsFrom_append hLast b
  | cons first init ih =>
    obtain ⟨hFirst, hRest⟩ := List.forall_mem_cons.mp hKeeps
    rw [List.cons_append, joined_cons (by simp), List.append_assoc, List.cons_append,
      hFirst.steps_slash, ih hRest, List.cons_append]

theorem steps_append (h : steps path = init ++ [last]) (b : List Char) :
    steps (path ++ b) =
      init ++ last.foldr Text.consHead (stepsFrom (Scan.start.through path) b) := by
  have hSteps := areSteps_of_steps h
  have hPath : Text.joined ['/'] (init ++ [last]) = path := by rw [← h, joined_steps]
  rw [← hPath, hSteps.steps_append, hSteps.through_joined]

theorem exists_last (path : List Char) : ∃ init last, steps path = init ++ [last] := by
  obtain ⟨init, last, -, hSteps, -⟩ := exists_steps path
  exact ⟨init, last, hSteps⟩

theorem stepsFrom_ne_nil (s : Scan) (path : List Char) : stepsFrom s path ≠ [] := by
  rcases stepsFrom_cases s path with ⟨-, hSteps⟩ | ⟨_, _, -, -, -, hSteps⟩ <;> simp [hSteps]

theorem stepsFrom_slash_of_open {s : Scan} (h : s.isOpen) (b : List Char) :
    stepsFrom s ('/' :: b) = [] :: steps b := by
  obtain rfl := Scan.isOpen_iff.mp h
  rfl

/-- A slash in a literal or in brackets is a character like any other. -/
theorem stepsFrom_slash_of_inner {s : Scan} (hQuoted : s.Quoted) (h : s.isOpen = false)
    (b : List Char) : stepsFrom s ('/' :: b) = Text.consHead '/' (stepsFrom s b) := by
  rw [stepsFrom, h, Bool.and_false, if_neg Bool.false_ne_true, hQuoted.next_eq (.inl rfl)]

end Append

/-- How a path is divided into steps. With slashes between them they give the path back, and all but
the last end outside of literals at depth 0. A slash behind a path that ends so separates the steps
of two paths. Behind any other path it goes into the last step, together with what is read from
there on as the first step of the other one. -/
theorem steps_concatenated (p : List Char) :
    Text.joined ['/'] (steps p) = p ∧
    (∀ s ∈ (steps p).dropLast, (Scan.start.through s).isOpen) ∧
    ∀ q,
      ((Scan.start.through p).isOpen → steps (p ++ '/' :: q) = steps p ++ steps q) ∧
      ((Scan.start.through p).isOpen = false → ∃ init last next rest,
        steps p = init ++ [last] ∧ stepsFrom (Scan.start.through p) q = next :: rest ∧
          steps (p ++ '/' :: q) = init ++ (last ++ '/' :: next) :: rest) := by
  obtain ⟨init, last, hSteps⟩ := exists_last p
  refine ⟨joined_steps p, fun s hs => ?_, fun q => ⟨fun hOpen => ?_, fun hInner => ?_⟩⟩
  · rw [hSteps, List.dropLast_concat] at hs
    exact Scan.isOpen_iff.mpr ((areSteps_of_steps hSteps).keeps s hs).same
  · rw [steps_append hSteps, stepsFrom_slash_of_open hOpen, foldr_consHead, List.append_nil, hSteps,
      List.append_assoc]
    rfl
  · obtain ⟨next, rest, hNext⟩ := List.exists_cons_of_ne_nil
      (stepsFrom_ne_nil (Scan.start.through p) q)
    refine ⟨init, last, next, rest, hSteps, hNext, ?_⟩
    have hQuoted := Scan.quoted_start.through p
    rw [steps_append hSteps, stepsFrom_slash_of_inner hQuoted hInner, hNext, Text.consHead,
      foldr_consHead]

/-- A path that ends within a literal within a predicate, and one that ends behind both. -/
theorem steps_concatenated_literal :
    let p := "Lines/Line[@type='a".toList
    let q := "b']/Qty".toList
    (∃ init last next rest, steps p = init ++ [last] ∧
      stepsFrom (Scan.start.through p) q = next :: rest ∧
        steps (p ++ '/' :: q) = init ++ (last ++ '/' :: next) :: rest) ∧
    steps ((p ++ '/' :: "b']".toList) ++ '/' :: "Qty".toList) =
      ["Lines".toList, "Line[@type='a/b']".toList, "Qty".toList] := by
  intro p q
  have hInner : (Scan.start.through p).isOpen = false := by decide +kernel
  have hOpen : (Scan.start.through (p ++ '/' :: "b']".toList)).isOpen := by decide +kernel
  refine ⟨((steps_concatenated p).2.2 q).2 hInner, ?_⟩
  rw [((steps_concatenated (p ++ '/' :: "b']".toList)).2.2 "Qty".toList).1 hOpen]
  decide +kernel

end Intake.Path
