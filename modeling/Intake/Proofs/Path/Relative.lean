import Intake.Proofs.Path.Division

/-! A path that is divided into the path above it, slashes, and its last step. Written from the nodes of
the path above, it keeps the last step, and the slashes where there is more than one; but where blanks
stand in front of the slashes, the path above loses them, is no longer the beginning of the path, and
only the last step is left. -/

namespace Intake.Path

/-- A path, the path above it, and its last step behind one slash and `k` more. -/
structure Divided (path above last : List Char) (k : Nat) : Prop where
  text : path = above ++ List.replicate (k + 1) '/' ++ last
  steps : Path.steps path = Path.steps above ++ List.replicate k [] ++ [last]
  ends : (Path.steps above).getLast? ≠ some []

/-- Whether the last step of a path holds nothing but blanks. -/
def endsBlank (path : List Char) : Bool := ((steps path).getLast?.getD []).all Text.isBlank

/-- The path that a relative path stands for at the nodes of another one. -/
def below (path : List Char) : List Char → List Char
  | '.' :: '/' :: '/' :: rest => path ++ '/' :: '/' :: rest
  | rest => path ++ '/' :: rest

/-- The path above another one without its closing blanks, which are `blanks`; its last step is left
as `step`, and `last` is the last character of both. -/
structure Closed (above : List Char) (init : List (List Char)) (step blanks : List Char)
    (last : Char) : Prop where
  steps : Path.steps above = init ++ [step ++ blanks]
  text : above = Text.dropEnd Text.isBlank above ++ blanks
  isBlank : ∀ c ∈ blanks, Text.isBlank c
  joined : Text.joined ['/'] (init ++ [step]) = Text.dropEnd Text.isBlank above
  step_ends : step.getLast? = some last
  ends : (Text.dropEnd Text.isBlank above).getLast? = some last
  notSlash : last ≠ '/'

theorem Closed.blanks_eq_nil {above step blanks : List Char} {init : List (List Char)} {c : Char}
    (h : Closed above init step blanks c) :
    blanks = [] ↔ Text.dropEnd Text.isBlank above = above := by
  constructor
  · intro hNone
    have hText := h.text
    rwa [hNone, List.append_nil, eq_comm] at hText
  · intro hSame
    have hText := h.text
    rw [hSame] at hText
    exact List.append_right_eq_self.mp hText.symm

/-- A step stands for itself at the nodes of another path, and behind one slash. -/
theorem below_of_passes {path step : List Char} (h : Scan.start.Passes step) :
    below path step = path ++ '/' :: step := by
  unfold below
  split
  · obtain ⟨-, hSlash, -⟩ := h
    exact absurd (hSlash rfl) (by decide)
  · rfl

section Normalized

variable {path : List Char} {c : Char}

theorem normalized_isPrefix (path : List Char) : normalized path <+: Text.trimmed path := by
  unfold normalized
  dsimp only
  split
  · exact List.prefix_rfl
  · exact Text.dropEnd_isPrefix _ _

theorem head?_normalized (h : (normalized path).head? = some c) : Text.isBlank c = false := by
  obtain ⟨rest, hRest⟩ := normalized_isPrefix path
  refine Text.head?_trimmed (s := path) ?_
  rw [← hRest, List.head?_append, h, Option.some_or]

/-- Only the paths of slashes alone end with a slash in normal form. -/
theorem getLast?_normalized (h : (normalized path).getLast? = some '/') :
    normalized path = ['/'] ∨ normalized path = ['/', '/'] := by
  by_cases hSlashes : Text.trimmed path = ['/'] || Text.trimmed path = ['/', '/']
  · have hSame : normalized path = Text.trimmed path := if_pos hSlashes
    rw [hSame]
    simpa using hSlashes
  · have hDropped : normalized path = Text.dropEnd (· == '/') (Text.trimmed path) := if_neg hSlashes
    rw [hDropped] at h
    exact absurd (Text.getLast?_dropEnd h) (by decide)

/-- A text without blanks around it that does not end with a slash is in normal form. -/
theorem normalized_of_trimmed {text : List Char} (hTrimmed : Text.trimmed path = text)
    (hSlash : text.getLast? ≠ some '/') : normalized path = text := by
  have hOther : ¬(text = ['/'] || text = ['/', '/']) = true := by
    rw [Bool.or_eq_true, decide_eq_true_eq, decide_eq_true_eq]
    rintro (rfl | rfl) <;> exact hSlash rfl
  rw [normalized, hTrimmed, if_neg hOther]
  exact Text.dropEnd_eq_self fun c hc => beq_eq_false_iff_ne.mpr fun hEq => hSlash (hEq ▸ hc)

end Normalized

section Divided

variable {path above last : List Char} {k : Nat}

/-- A path with a path above it is divided. -/
theorem exists_divided (h : normalized (parentOf path) ≠ []) :
    ∃ above last k, Divided (normalized path) above last k := by
  obtain ⟨init, last, hSteps, hPath, hJoined⟩ := exists_steps (normalized path)
  obtain ⟨k, hInit⟩ := exists_dangling init
  have hSome : withoutDangling init ≠ [] := by
    intro hNone
    rw [parentOf, hPath, List.dropLast_concat, hNone] at h
    exact h rfl
  obtain ⟨front, step, hFront⟩ := (List.eq_nil_or_concat (withoutDangling init)).resolve_left hSome
  rw [List.concat_eq_append] at hFront
  have hAbove : steps (Text.joined ['/'] (withoutDangling init)) = withoutDangling init := by
    rw [hFront]
    refine AreSteps.steps_joined ⟨fun s hs => ?_, ?_⟩
    · exact hSteps.keeps s (by rw [hInit, hFront]; simp [hs])
    · exact (hSteps.keeps step (by rw [hInit, hFront]; simp)).passes
  refine ⟨Text.joined ['/'] (withoutDangling init), last, k, ?_, ?_, ?_⟩
  · rw [← joined_slashes hSome, ← hInit, hJoined]
  · rw [hAbove, ← hInit, hPath]
  · rw [hAbove]
    exact getLast?_withoutDangling init

namespace Divided

variable (h : Divided (normalized path) above last k)

include h

theorem areSteps : AreSteps (Path.steps above ++ List.replicate k []) last :=
  areSteps_of_steps h.steps

theorem parentOf_eq : parentOf path = above := by
  rw [parentOf, h.steps, List.dropLast_concat, withoutDangling_append h.ends, joined_steps]

/-- The last step of the path above stands at its end and is not empty. -/
theorem exists_step : ∃ init front step, Path.steps above = init ++ [step] ∧ above = front ++ step ∧
    step ≠ [] ∧ ∀ text, Text.joined ['/'] (init ++ [text]) = front ++ text := by
  obtain ⟨init, step, -, hSteps, hJoined⟩ := exists_steps above
  have hSome : step ≠ [] := by
    rintro rfl
    exact h.ends (by rw [hSteps, List.getLast?_concat])
  rcases Decidable.em (init = []) with rfl | hInit
  · exact ⟨[], [], step, hSteps, hJoined.symm, hSome, fun _ => rfl⟩
  · have hFront (text : List Char) : Text.joined ['/'] (init ++ [text]) =
        (Text.joined ['/'] init ++ ['/']) ++ text := by
      rw [joined_append hInit (List.cons_ne_nil _ _), List.append_assoc]
      rfl
    exact ⟨init, _, step, hSteps, hJoined.symm.trans (hFront step), hSome, hFront⟩

theorem getLast?_above : above ≠ [] ∧ above.getLast? ≠ some '/' := by
  obtain ⟨init, front, step, hSteps, rfl, hSome, -⟩ := h.exists_step
  have hStep := List.dropLast_concat_getLast hSome
  refine ⟨List.append_ne_nil_of_right_ne_nil _ hSome, fun hSlash => ?_⟩
  rw [← hStep, ← List.append_assoc, List.getLast?_concat] at hSlash
  rw [Option.some.inj hSlash] at hStep
  refine Scan.not_keeps_slash (t := step.dropLast) (List.forall_mem_nil _) ?_
  rw [hStep]
  exact h.areSteps.keeps _ (by simp [hSteps])

theorem head?_above {c : Char} (hc : above.head? = some c) : Text.isBlank c = false := by
  have hFirst : (normalized path).head? = some c := by
    rw [h.text, List.append_assoc, List.head?_append, hc, Option.some_or]
  exact head?_normalized hFirst

/-- A path above another one is no path of slashes alone, so there is a step behind it. -/
theorem last_ne_nil : last ≠ [] := by
  rintro rfl
  obtain ⟨hSome, hAbove⟩ := h.getLast?_above
  have hText := h.text
  rw [List.append_nil] at hText
  have hSlash : (normalized path).getLast? = some '/' := by
    rw [hText, List.replicate_succ']
    simp
  have hAll : ∀ c ∈ normalized path, c = '/' := by
    rcases getLast?_normalized hSlash with hOne | hTwo
    · simp [hOne]
    · simp [hTwo]
  obtain ⟨c, hc⟩ := Option.isSome_iff_exists.mp (List.getLast?_isSome.mpr hSome)
  rw [hText] at hAll
  obtain rfl := hAll c (List.mem_append_left _ (List.mem_of_getLast? hc))
  exact hAbove hc

/-- Without its closing blanks, the path above still ends with a step, if that has a text. -/
theorem exists_closed (hText : endsBlank above = false) :
    ∃ init step blanks c, Closed above init step blanks c := by
  obtain ⟨init, front, whole, hSteps, hAbove, -, hJoined⟩ := h.exists_step
  obtain ⟨blanks, hWhole, hBlanks⟩ := Text.exists_dropEnd Text.isBlank whole
  rw [endsBlank, hSteps, List.getLast?_concat, Option.getD_some, List.all_eq_false] at hText
  obtain ⟨d, hd, hNotBlank⟩ := hText
  have hSome : Text.dropEnd Text.isBlank whole ≠ [] :=
    List.ne_nil_of_mem (Text.mem_dropEnd hd (by simpa using hNotBlank))
  obtain ⟨text, c, hStep⟩ : ∃ text c, Text.dropEnd Text.isBlank whole = text ++ [c] :=
    ⟨_, _, (List.dropLast_concat_getLast hSome).symm⟩
  have hLast : Text.isBlank c = false :=
    Text.getLast?_dropEnd (s := whole) (by rw [hStep, List.getLast?_concat])
  have hKey : Text.dropEnd Text.isBlank above = front ++ (text ++ [c]) := by
    rw [hAbove, hWhole, hStep, ← List.append_assoc, Text.dropEnd_append_of_forall hBlanks]
    refine Text.dropEnd_eq_self fun b hb => ?_
    rw [← List.append_assoc, List.getLast?_concat] at hb
    exact Option.some.inj hb ▸ hLast
  rw [hStep] at hWhole
  refine ⟨init, text ++ [c], blanks, c, ?_, ?_, hBlanks, ?_, ?_, ?_, ?_⟩
  · rw [hSteps, hWhole]
  · rw [hKey, List.append_assoc, ← hWhole, hAbove]
  · rw [hKey, hJoined]
  · rw [List.getLast?_concat]
  · rw [hKey, ← List.append_assoc, List.getLast?_concat]
  · rintro rfl
    refine Scan.not_keeps_slash (t := text) hBlanks ?_
    have hKeeps : Scan.start.Keeps whole := h.areSteps.keeps _ (by simp [hSteps])
    rwa [hWhole, List.append_assoc] at hKeeps

section Closed

variable {init : List (List Char)} {step blanks : List Char} {c : Char}
  (hClosed : Closed above init step blanks c)

include hClosed

/-- The path above loses its closing blanks and nothing else, however often it is brought into normal
form. -/
theorem normalized_above : normalized above = Text.dropEnd Text.isBlank above ∧
    normalized (Text.dropEnd Text.isBlank above) = Text.dropEnd Text.isBlank above := by
  have hSlash : (Text.dropEnd Text.isBlank above).getLast? ≠ some '/' := by
    rw [hClosed.ends]
    exact fun hEq => hClosed.notSlash (Option.some.inj hEq)
  have hFirst : ∀ a, (Text.dropEnd Text.isBlank above).head? = some a → Text.isBlank a = false := by
    intro a ha
    refine h.head?_above ?_
    rw [hClosed.text, List.head?_append, ha, Option.some_or]
  constructor
  · refine normalized_of_trimmed ?_ hSlash
    rw [Text.trimmed, Text.dropWhile_eq_self fun a => h.head?_above]
  · exact normalized_of_trimmed (Text.trimmed_eq_self hFirst fun a => Text.getLast?_dropEnd) hSlash

theorem text_closed : normalized path =
    Text.dropEnd Text.isBlank above ++ (blanks ++ (List.replicate (k + 1) '/' ++ last)) := by
  rw [h.text, List.append_assoc, ← List.append_assoc _ blanks, ← hClosed.text]

/-- The path above is the beginning of the path, with slashes behind it, if it has no closing blanks. -/
theorem relativeTo_eq : relativeTo (Text.dropEnd Text.isBlank above) path =
    if k = 0 ∨ blanks ≠ [] then last else '.' :: (List.replicate (k + 1) '/' ++ last) := by
  have hText := h.text_closed hClosed
  have hSome : (Text.dropEnd Text.isBlank above).isEmpty = false := by
    cases hKey : Text.dropEnd Text.isBlank above with
    | nil => simpa [hKey] using hClosed.ends
    | cons => rfl
  have hOther : normalized path ≠ Text.dropEnd Text.isBlank above := by
    intro hEq
    have hLength := congrArg List.length (hEq.symm.trans hText)
    simp only [List.length_append, List.length_replicate] at hLength
    omega
  rw [relativeTo, (h.normalized_above hClosed).2, hSome, if_neg Bool.false_ne_true, if_neg hOther]
  -- Without closing blanks, the path above and a slash are the beginning of the path. With some, the
  -- first of them stands where the slash should be.
  cases hBlanks : blanks with
  | nil =>
    have hDrop : Text.dropStart? (Text.dropEnd Text.isBlank above ++ ['/']) (normalized path) =
        some (List.replicate k '/' ++ last) := by
      rw [Text.dropStart?_eq_some, hText, hBlanks]
      simp [List.replicate_succ]
    rw [hDrop]
    cases k with
    | zero =>
      have hLast : ∀ rest, last ≠ '/' :: rest := by
        rintro rest rfl
        exact Scan.not_passes_slash (List.forall_mem_nil _) h.areSteps.passes
      cases last with
      | nil => rfl
      | cons c rest =>
        have hFirst : c ≠ '/' := fun hEq => hLast rest (by rw [hEq])
        simp
    | succ k => simp [List.replicate_succ]
  | cons b more =>
    have hBlank : Text.isBlank b := hClosed.isBlank b (by simp [hBlanks])
    have hDrop : Text.dropStart? (Text.dropEnd Text.isBlank above ++ ['/']) (normalized path) =
        none := by
      refine Option.eq_none_iff_forall_ne_some.mpr fun rest hRest => ?_
      have hSplit := hText.symm.trans (Text.dropStart?_eq_some.mp hRest)
      rw [hBlanks, List.append_assoc] at hSplit
      obtain rfl : b = '/' := (List.cons.inj (List.append_cancel_left hSplit)).1
      exact absurd hBlank (by decide)
    rw [hDrop, if_pos (.inr (List.cons_ne_nil _ _)), h.steps, List.getLast?_concat]
    rfl

/-- A relative path begins with no slash. -/
theorem head?_relativeTo :
    (Text.trimmed (relativeTo (Text.dropEnd Text.isBlank above) path)).head? ≠ some '/' := by
  intro hHead
  have hFirst := Text.head?_trimmed_eq hHead
  rw [h.relativeTo_eq hClosed] at hFirst
  split at hFirst
  · obtain ⟨rest, hRest⟩ := List.head?_eq_some_iff.mp hFirst
    have hPasses := h.areSteps.passes
    rw [← List.takeWhile_append_dropWhile (p := Text.isBlank) (l := last), hRest] at hPasses
    exact Scan.not_passes_slash
      (fun c hc => List.all_eq_true.mp List.all_takeWhile c hc) hPasses
  · have hPoint : Text.isBlank '.' = false := by decide
    rw [List.dropWhile_cons_of_neg (by simp [hPoint])] at hFirst
    cases hFirst

theorem below_relativeTo (hKept : k = 0 ∨ blanks = []) :
    below (Text.dropEnd Text.isBlank above)
      (relativeTo (Text.dropEnd Text.isBlank above) path) =
      Text.dropEnd Text.isBlank above ++ List.replicate (k + 1) '/' ++ last := by
  rw [h.relativeTo_eq hClosed]
  cases k with
  | zero =>
    rw [if_pos (.inl rfl), below_of_passes h.areSteps.passes, List.append_assoc]
    rfl
  | succ k =>
    have hNone : blanks = [] := hKept.resolve_left (Nat.succ_ne_zero k)
    rw [if_neg (by simp [hNone]), List.append_assoc]
    rfl

/-- The path above and the relative path go through the steps of the path, up to blanks around them. -/
theorem steps_below (hKept : k = 0 ∨ blanks = []) :
    (Path.steps (below (Text.dropEnd Text.isBlank above)
      (relativeTo (Text.dropEnd Text.isBlank above) path))).map Text.trimmed =
      (Path.steps (normalized path)).map Text.trimmed := by
  have hKeeps := h.areSteps.keeps
  rw [hClosed.steps] at hKeeps
  have hSteps : AreSteps (init ++ [step] ++ List.replicate k []) last := by
    refine ⟨fun s hs => ?_, h.areSteps.passes⟩
    simp only [List.mem_append, List.mem_singleton] at hs
    rcases hs with (hInit | rfl) | hEmpty
    · exact hKeeps s (by simp [hInit])
    · exact Scan.Keeps.of_append_blanks hClosed.isBlank (hKeeps _ (by simp))
    · exact hKeeps s (List.mem_append_right _ hEmpty)
  rw [h.below_relativeTo hClosed hKept, ← hClosed.joined, ← joined_slashes (by simp),
    hSteps.steps_joined, h.steps, hClosed.steps]
  simp [Text.trimmed_append_blanks hClosed.isBlank]

end Closed

/-- A relative path ends with the last step, whatever blanks stand in the path above. -/
theorem last_isSuffix {ancestor : List Char} (hLength : (normalized ancestor).length ≤ above.length) :
    last <:+ relativeTo ancestor path := by
  have hText := h.text
  have hLast : last <:+ normalized path := ⟨_, hText.symm⟩
  have hPath := congrArg List.length hText
  simp only [List.length_append, List.length_replicate] at hPath
  unfold relativeTo
  dsimp only
  split
  · exact hLast
  split
  · next hEq =>
    rw [hEq] at hPath
    omega
  · have hDrop {rest : List Char} (hRest : Text.dropStart? (normalized ancestor ++ ['/'])
        (normalized path) = some rest) : last <:+ rest := by
      have hSplit := Text.dropStart?_eq_some.mp hRest
      have hRestLength := congrArg List.length hSplit
      simp only [List.length_append, List.length_singleton] at hRestLength
      exact List.suffix_of_suffix_length_le hLast ⟨_, hSplit.symm⟩ (by omega)
    split
    · next rest hRest =>
      exact (hDrop hRest).trans ⟨['.', '/'], rfl⟩
    · next rest _ hRest => exact hDrop hRest
    · rw [h.steps, List.getLast?_concat]
      exact List.suffix_rfl

end Divided

end Divided

/-- How a path is written from the nodes of the path above it, which `key` is in normal form, if the
step in front of the last slashes has a text. It keeps the last step, and the slashes where there is
more than one; but where blanks stand in front of those, only the step is left. -/
structure Kept (path above last : List Char) (k : Nat) (key written : List Char) : Prop where
  key_eq : key = Text.dropEnd Text.isBlank above
  written_eq : written =
    if k = 0 ∨ key ≠ above then last else '.' :: (List.replicate (k + 1) '/' ++ last)
  notAbsolute : (Text.trimmed written).head? ≠ some '/'
  sameSteps : k = 0 ∨ key = above →
    (steps (below key written)).map Text.trimmed = (steps path).map Text.trimmed

theorem Divided.kept {path above last : List Char} {k : Nat}
    (h : Divided (normalized path) above last k) (hText : endsBlank above = false) :
    Kept (normalized path) above last k (normalized above) (relativeTo (normalized above) path) := by
  obtain ⟨init, step, blanks, c, hClosed⟩ := h.exists_closed hText
  rw [(h.normalized_above hClosed).1]
  refine ⟨rfl, ?_, h.head?_relativeTo hClosed, fun hKept => h.steps_below hClosed ?_⟩
  · simp only [h.relativeTo_eq hClosed, ne_eq, hClosed.blanks_eq_nil]
  · rwa [hClosed.blanks_eq_nil]

/-- A path is divided into the path above it, one slash or more, and its last step. As it is written
from the nodes of the path above, it ends with that step, and is a point only if the step is one. -/
theorem relative_rejoins (p : String) (hKey : normalize (some (parent (some p))) ≠ "") :
    ∃ above last k, Divided (normalized p.toList) above last k ∧ last ≠ [] ∧
      (parent (some p)).toList = above ∧
      let key := normalize (some (parent (some p)))
      let written := (relative (some p) (some key)).toList
      last <:+ written ∧ (written = ['.'] → last = ['.']) ∧
        (endsBlank above = false → Kept (normalized p.toList) above last k key.toList written) := by
  have hSome : normalized (parentOf p.toList) ≠ [] := by
    simpa [normalize, parent] using hKey
  obtain ⟨above, last, k, h⟩ := exists_divided hSome
  have hAbove : (parent (some p)).toList = above := by
    simp [parent, h.parentOf_eq]
  have hNormal : (normalize (some (parent (some p)))).toList = normalized above := by
    simp [normalize, hAbove]
  have hRelative : (relative (some p) (some (normalize (some (parent (some p)))))).toList =
      relativeTo (normalized above) p.toList := by
    simp [relative, hNormal]
  have hLength (path : List Char) : (normalized path).length ≤ path.length :=
    Nat.le_trans (normalized_isPrefix path).length_le (Text.length_trimmed_le path)
  have hEnds : last <:+ relativeTo (normalized above) p.toList :=
    h.last_isSuffix (Nat.le_trans (hLength _) (hLength _))
  refine ⟨above, last, k, h, h.last_ne_nil, hAbove, ?_⟩
  dsimp only
  rw [hNormal, hRelative]
  refine ⟨hEnds, fun hPoint => ?_, h.kept⟩
  rw [hPoint, List.suffix_cons_iff] at hEnds
  exact hEnds.resolve_right fun hNone => h.last_ne_nil (List.suffix_nil.mp hNone)

/-- Two slashes are kept in front of the last step. -/
theorem relative_rejoins_twoSlashes :
    let p := "//Lines/Line//Qty"
    let key := normalize (some (parent (some p)))
    key ≠ "" ∧ key = "//Lines/Line" ∧ relative (some p) (some key) = ".//Qty" ∧
      ∃ above last k, Divided (normalized p.toList) above last k ∧
        last <:+ (relative (some p) (some key)).toList := by
  intro p key
  have hKey : key ≠ "" := by decide +kernel
  obtain ⟨above, last, k, hDivided, -, -, hEnds, -⟩ := relative_rejoins p hKey
  exact ⟨hKey, by decide +kernel, by decide +kernel, above, last, k, hDivided, hEnds⟩

/-- Blanks in front of two slashes, and a step of blanks: in the first case one slash is lost, in the
second one a slash is kept that there is only one of. -/
theorem not_rejoins_blanks :
    let p := "/Order/Items //Sku"
    let q := "a/ /b"
    (Divided (normalized p.toList) "/Order/Items ".toList "Sku".toList 1 ∧
      normalize (some (parent (some p))) = "/Order/Items" ∧
      relative (some p) (some "/Order/Items") = "Sku" ∧ "Sku" ≠ ".//" ++ "Sku") ∧
    Divided (normalized q.toList) "a/ ".toList "b".toList 0 ∧
      normalize (some (parent (some q))) = "a" ∧ relative (some q) (some "a") = " /b" ∧
      (Text.trimmed " /b".toList).head? = some '/' := by
  refine ⟨⟨⟨?_, ?_, ?_⟩, ?_, ?_, ?_⟩, ⟨?_, ?_, ?_⟩, ?_, ?_, ?_⟩ <;> decide +kernel

end Intake.Path
