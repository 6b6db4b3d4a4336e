import Intake.Text.Classes
import Intake.Text.Split

/-! The parts of a text: what is left of it without the blanks at both ends, the two sides of a
separator, and the pieces between separators. -/

namespace Intake.Text

/-- What holds of the first code points holds of every character of ASCII. -/
theorem forall_ascii {P : Char → Prop} (h : ∀ n < 128, P (Char.ofNat n)) {c : Char}
    (hc : c.val < 128) : P c := by
  simpa [Char.ofNat_toNat] using h c.toNat (UInt32.lt_iff_toNat_lt.mp hc)

/-- The code points of blank characters. -/
def blankCodes : List Nat :=
  List.range' 9 5 ++ List.range' 28 5 ++ [0x85, 0xa0, 0x1680] ++ List.range' 0x2000 11 ++
    [0x2028, 0x2029, 0x202f, 0x205f, 0x3000]

/-- What holds of a few code points holds of every blank. -/
theorem forall_isBlank {P : Char → Prop} (h : ∀ n ∈ blankCodes, P (Char.ofNat n)) {c : Char}
    (hc : isBlank c) : P c := by
  have hCode : c.toNat ∈ blankCodes := by
    simp only [isBlank, Bool.or_eq_true, Bool.and_eq_true, decide_eq_true_eq, beq_iff_eq] at hc
    simp only [blankCodes, List.mem_append, List.mem_range'_1, List.mem_cons, List.not_mem_nil]
    omega
  simpa [Char.ofNat_toNat] using h _ hCode

/-- A property that no blank has is one of characters that are not blank. -/
theorem isBlank_of_class {p : Char → Bool} (hp : ∀ n ∈ blankCodes, p (Char.ofNat n) = false)
    {c : Char} (h : p c) : isBlank c = false := by
  refine Bool.eq_false_iff.mpr fun hBlank => ?_
  have hNot : p c = false := forall_isBlank (P := fun c => p c = false) hp hBlank
  rw [h] at hNot
  cases hNot

theorem isBlankText_of_mem {c : Char} {s : String} (h : c ∈ s.toList)
    (hc : isBlank c = false) : isBlankText s = false := by
  simp only [isBlankText, List.all_eq_false]
  exact ⟨c, h, by simp [hc]⟩

theorem isBlankText_append (a b : String) :
    isBlankText (a ++ b) = (isBlankText a && isBlankText b) := by
  simp only [isBlankText, String.toList_append, List.all_append]

theorem notBlank_append_left {a : String} (h : isBlankText a = false) (b : String) :
    isBlankText (a ++ b) = false := by
  rw [isBlankText_append, h, Bool.false_and]

theorem notBlank_append_right {b : String} (h : isBlankText b = false) (a : String) :
    isBlankText (a ++ b) = false := by
  rw [isBlankText_append, h, Bool.and_false]

section Trimmed

variable {p : Char → Bool} {s : List Char} {c : Char}

theorem dropWhile_eq_self (h : ∀ c, s.head? = some c → p c = false) : s.dropWhile p = s := by
  cases s with
  | nil => rfl
  | cons c rest => simp [h c rfl]

theorem takeWhile_append_of_stop {t : List Char} (hs : ∀ c ∈ s, p c)
    (ht : ∀ c ∈ t.head?, p c = false) : (s ++ t).takeWhile p = s := by
  rw [List.takeWhile_append_of_pos hs]
  cases t with
  | nil => simp
  | cons c rest => simp [ht c rfl]

theorem dropWhile_append_of_stop {t : List Char} (hs : ∀ c ∈ s, p c)
    (ht : ∀ c ∈ t.head?, p c = false) : (s ++ t).dropWhile p = t := by
  rw [List.dropWhile_append_of_pos hs, dropWhile_eq_self ht]

theorem head?_dropWhile (h : (s.dropWhile p).head? = some c) : p c = false := by
  simpa [h] using List.head?_dropWhile_not p s

theorem dropEnd_isPrefix (p : Char → Bool) (s : List Char) : dropEnd p s <+: s := by
  rw [← List.reverse_suffix, dropEnd, List.reverse_reverse]
  exact List.dropWhile_suffix p

theorem dropEnd_eq_self (h : ∀ c, s.getLast? = some c → p c = false) : dropEnd p s = s := by
  rw [dropEnd, dropWhile_eq_self, List.reverse_reverse]
  rwa [List.head?_reverse]

theorem trimmed_eq_self (hFirst : ∀ c, s.head? = some c → isBlank c = false)
    (hLast : ∀ c, s.getLast? = some c → isBlank c = false) : trimmed s = s := by
  rw [trimmed, dropWhile_eq_self hFirst, dropEnd_eq_self hLast]

theorem trimmed_of_noBlank (h : ∀ c ∈ s, isBlank c = false) : trimmed s = s :=
  trimmed_eq_self (fun c hc => h c (List.mem_of_head? hc)) fun c hc => h c (List.mem_of_getLast? hc)

theorem trimmed_of_blank {s : String} (h : isBlankText s) : trimmed s.toList = [] := by
  have hNone : (s.toList ++ []).dropWhile isBlank = [] :=
    List.dropWhile_append_of_pos (List.all_eq_true.mp h)
  rw [List.append_nil] at hNone
  rw [trimmed, hNone]
  rfl

theorem length_trimmed_le (s : List Char) : (trimmed s).length ≤ s.length :=
  Nat.le_trans (dropEnd_isPrefix _ _).length_le (List.dropWhile_suffix _).length_le

theorem head?_trimmed_eq (h : (trimmed s).head? = some c) :
    (s.dropWhile isBlank).head? = some c := by
  obtain ⟨rest, hRest⟩ := dropEnd_isPrefix isBlank (s.dropWhile isBlank)
  rw [← hRest, List.head?_append, ← trimmed, h, Option.some_or]

theorem head?_trimmed (h : (trimmed s).head? = some c) : isBlank c = false :=
  head?_dropWhile (head?_trimmed_eq h)

theorem getLast?_dropEnd (h : (dropEnd p s).getLast? = some c) : p c = false := by
  rw [dropEnd, List.getLast?_reverse] at h
  exact head?_dropWhile h

theorem getLast?_trimmed (h : (trimmed s).getLast? = some c) : isBlank c = false :=
  getLast?_dropEnd h

/-- What is dropped from the end of a text. -/
theorem exists_dropEnd (p : Char → Bool) (s : List Char) :
    ∃ t, s = dropEnd p s ++ t ∧ ∀ c ∈ t, p c = true := by
  refine ⟨(s.reverse.takeWhile p).reverse, ?_, fun c hc => ?_⟩
  · rw [dropEnd, ← List.reverse_append, List.takeWhile_append_dropWhile, List.reverse_reverse]
  · exact List.all_eq_true.mp List.all_takeWhile c (List.mem_reverse.mp hc)

/-- What is trimmed away from both ends of a text. -/
theorem exists_trimmed (s : List Char) : ∃ before behind,
    s = before ++ (trimmed s ++ behind) ∧ (∀ c ∈ before, isBlank c) ∧ ∀ c ∈ behind, isBlank c := by
  obtain ⟨behind, hText, hBehind⟩ := exists_dropEnd isBlank (s.dropWhile isBlank)
  refine ⟨s.takeWhile isBlank, behind, ?_, ?_, hBehind⟩
  · rw [trimmed, ← hText, List.takeWhile_append_dropWhile]
  · exact List.all_eq_true.mp List.all_takeWhile

theorem dropEnd_append_of_forall {t : List Char} (h : ∀ c ∈ t, p c = true) :
    dropEnd p (s ++ t) = dropEnd p s := by
  rw [dropEnd, List.reverse_append,
    List.dropWhile_append_of_pos fun c hc => h c (List.mem_reverse.mp hc), dropEnd]

/-- Blanks at the end of a text are trimmed away. -/
theorem trimmed_append_blanks {t : List Char} (h : ∀ c ∈ t, isBlank c = true) :
    trimmed (s ++ t) = trimmed s := by
  rw [trimmed, trimmed, List.dropWhile_append]
  split
  · next hNone =>
    have hBlank : ∀ c ∈ t.dropWhile isBlank, isBlank c = true := fun c hc =>
      h c (List.dropWhile_subset isBlank hc)
    rw [List.isEmpty_iff.mp hNone]
    exact dropEnd_append_of_forall (s := []) hBlank
  · exact dropEnd_append_of_forall h

theorem mem_dropWhile (h : c ∈ s) (hKept : p c = false) : c ∈ s.dropWhile p := by
  rw [← List.takeWhile_append_dropWhile (p := p) (l := s), List.mem_append] at h
  refine h.resolve_left fun hDropped => ?_
  have hAll := List.all_eq_true.mp (List.all_takeWhile (l := s)) c hDropped
  rw [hKept] at hAll
  cases hAll

theorem mem_dropEnd (h : c ∈ s) (hKept : p c = false) : c ∈ dropEnd p s :=
  List.mem_reverse.mpr (mem_dropWhile (List.mem_reverse.mpr h) hKept)

/-- What is dropped from the end of a text does not reach beyond a character that is kept. -/
theorem dropEnd_append {t : List Char} (h : ∀ c, s.getLast? = some c → p c = false) :
    dropEnd p (s ++ t) = s ++ dropEnd p t := by
  have hKept : s.reverse.dropWhile p = s.reverse :=
    dropWhile_eq_self fun c hc => h c (by rwa [List.head?_reverse] at hc)
  rw [dropEnd, List.reverse_append, List.dropWhile_append, hKept, dropEnd]
  split
  · next hEmpty => simp [List.isEmpty_iff.mp hEmpty]
  · rw [List.reverse_append, List.reverse_reverse]

/-- Only the end of a text is trimmed behind a beginning that no blanks stand around. -/
theorem trimmed_append {t : List Char} (hSome : s ≠ [])
    (hFirst : ∀ c, s.head? = some c → isBlank c = false)
    (hLast : ∀ c, s.getLast? = some c → isBlank c = false) :
    trimmed (s ++ t) = s ++ dropEnd isBlank t := by
  obtain ⟨d, rest, rfl⟩ := List.exists_cons_of_ne_nil hSome
  have hKept : (d :: rest ++ t).dropWhile isBlank = d :: rest ++ t := dropWhile_eq_self hFirst
  rw [trimmed, hKept, dropEnd_append hLast]

/-- Characters that are not blank are not trimmed away. -/
theorem mem_trimmed (h : c ∈ s) (hKept : isBlank c = false) : c ∈ trimmed s :=
  mem_dropEnd (mem_dropWhile h hKept) hKept

theorem mem_of_mem_trimmed (h : c ∈ trimmed s) : c ∈ s :=
  List.dropWhile_subset isBlank ((dropEnd_isPrefix isBlank _).subset h)

/-- A text that is not blank is not empty without the blanks around it. -/
theorem trim_ne_empty {s : String} (h : isBlankText s = false) : trim s ≠ "" := by
  simp only [isBlankText, List.all_eq_false] at h
  obtain ⟨c, hMem, hNot⟩ := h
  have hKept : c ∈ trimmed s.toList := mem_trimmed hMem (by simpa using hNot)
  intro hNone
  rw [← toList_trim, hNone] at hKept
  cases hKept

end Trimmed

section Separated

variable {sep : Char} {s t : List Char}

theorem not_mem_cut : sep ∉ (cut sep s).1 := by
  unfold cut
  split
  · next hNone =>
    intro hMem
    have hAll : s.takeWhile (· != sep) = s := by
      have hAppend := List.takeWhile_append_dropWhile (p := (· != sep)) (l := s)
      rwa [hNone, List.append_nil] at hAppend
    rw [← hAll] at hMem
    simpa using List.all_eq_true.mp (List.all_takeWhile (l := s)) sep hMem
  · intro hMem
    simpa using List.all_eq_true.mp (List.all_takeWhile (l := s)) sep hMem

theorem cut_of_not_mem (h : sep ∉ s) : cut sep s = (s, none) := by
  have hAll : ∀ c ∈ s, (c != sep) = true := fun c hc =>
    bne_iff_ne.mpr fun hEq => h (hEq ▸ hc)
  have hNone : (s ++ []).dropWhile (· != sep) = [] := List.dropWhile_append_of_pos hAll
  rw [List.append_nil] at hNone
  rw [cut, hNone]

/-- A separator that does not occur before divides a text. -/
theorem cut_append (h : sep ∉ s) : cut sep (s ++ sep :: t) = (s, some t) := by
  have hAll : ∀ c ∈ s, (c != sep) = true := fun c hc => bne_iff_ne.mpr fun hEq => h (hEq ▸ hc)
  simp [cut, List.dropWhile_append_of_pos hAll, List.takeWhile_append_of_pos hAll]

/-- The two sides of a separator, with the separator between them if there is one, are the text. -/
theorem eq_of_cut {before : List Char} {after : Option (List Char)}
    (h : cut sep s = (before, after)) : s = before ++ (after.map (sep :: ·)).getD [] := by
  have hParts := List.takeWhile_append_dropWhile (p := (· != sep)) (l := s)
  unfold cut at h
  split at h
  · cases h
    simp
  · next c rest hRest =>
    cases h
    have hStop : (c != sep) = false :=
      head?_dropWhile (p := (· != sep)) (s := s) (by rw [hRest]; rfl)
    obtain rfl : c = sep := by simpa using hStop
    rw [hRest] at hParts
    exact hParts.symm

/-- The pieces hold all characters but the separators. -/
theorem flatten_pieces (sep : Char) (s : List Char) :
    (pieces sep s).flatten = s.filter (· != sep) := by
  induction s with
  | nil => rfl
  | cons c s ih =>
    obtain ⟨piece, more, hPieces⟩ := List.exists_cons_of_ne_nil (pieces_ne_nil sep s)
    rw [pieces]
    split
    · next hSep => simpa [hSep] using ih
    · next hOther =>
      rw [hPieces] at ih
      rw [hPieces, consHead, List.flatten_cons, List.cons_append, ← List.flatten_cons, ih,
        List.filter_cons_of_pos (by simpa using hOther)]

/-- Characters in front of the first separator belong to the first piece. -/
theorem pieces_append_of_not_mem {first : List Char} {rest : List (List Char)} (h : sep ∉ s)
    (hPieces : pieces sep t = first :: rest) : pieces sep (s ++ t) = (s ++ first) :: rest := by
  induction s with
  | nil => exact hPieces
  | cons c s ih =>
    obtain ⟨hFirst, hRest⟩ := not_or.mp (mt List.mem_cons.mpr h)
    rw [List.cons_append, pieces, if_neg (Ne.symm hFirst), ih hRest]
    rfl

end Separated

theorem dropStart?_eq_some {start s rest : List Char} :
    dropStart? start s = some rest ↔ s = start ++ rest := by
  induction start generalizing s with
  | nil => simp [dropStart?]
  | cons a start ih =>
    cases s with
    | nil => simp [dropStart?]
    | cons c s => grind [dropStart?]

end Intake.Text
