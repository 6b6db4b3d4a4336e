import Intake.Text.Case
import Intake.Proofs.Results
import Intake.Proofs.Text.Parts

/-! The small form of a text has no smaller one: every character of it is its own small form. Nor
does taking small forms make a blank, a colon, a dash or an underscore of anything else. A text of
ASCII is the small form of those texts whose characters have its characters as their small forms,
one by one, whatever stands around them. -/

namespace Intake.Text

/-- The first and the last image of a run. -/
def CaseRun.image (run : CaseRun) : Nat × Nat :=
  ((run.1 + run.2.2.2).toNat, (run.2.1 + run.2.2.2).toNat)

/-- Whether a run holds a character, by its code point. -/
def CaseRun.Holds (run : CaseRun) (n : Nat) : Prop :=
  run.1 ≤ n ∧ n ≤ run.2.1 ∧ (n - run.1) % run.2.2.1 = 0

/-- Whether no image of a run is held by the run `other`: they lie apart, or one lies in the gaps of
the other. -/
def CaseRun.avoids (run other : CaseRun) : Bool :=
  Nat.blt run.image.2 other.1 || Nat.blt other.2.1 run.image.1 ||
    (other.2.2.1 == 2 && (run.2.2.1 == 2 || run.1 == run.2.1) &&
      (run.image.1 + other.1) % 2 == 1)

/-- Whether no image of a run lies in a range. -/
def CaseRun.misses (run : CaseRun) (range : Nat × Nat) : Bool :=
  Nat.blt run.image.2 range.1 || Nat.blt range.2 run.image.1

/-- The ranges that hold the blanks, the colon, the capitals of ASCII, and the capital that has a
small form of two characters. -/
def unsettledRanges : List (Nat × Nat) :=
  [(0, 0x60), (0x7b, 0xa0), (0x130, 0x130), (0x1680, 0x1680), (0x2000, 0x200a), (0x2028, 0x2029),
    (0x202f, 0x202f), (0x205f, 0x205f), (0x3000, 0x3000)]

/-- The images of the runs of small forms lie in none of the ranges, and no run holds them. -/
theorem lowerRuns_settled :
    (lowerRuns.all fun run => decide (0 ≤ run.1 + run.2.2.2) && unsettledRanges.all run.misses &&
      lowerRuns.all run.avoids) = true := by
  decide +kernel

theorem CaseRun.image?_eq_some {runs : List CaseRun} {n m : Nat} (h : image? runs n = some m) :
    ∃ run ∈ runs, run.Holds n ∧ m = (n + run.2.2.2).toNat := by
  obtain ⟨run, hFind, rfl⟩ := Option.map_eq_some_iff.mp h
  refine ⟨run, List.mem_of_find?_eq_some hFind, ?_, rfl⟩
  simpa [Holds, and_assoc] using List.find?_some hFind

theorem CaseRun.image?_eq_none {runs : List CaseRun} {n : Nat}
    (h : ∀ run ∈ runs, ¬run.Holds n) : image? runs n = none := by
  refine Option.map_eq_none_iff.mpr (List.find?_eq_none.mpr fun run hRun => ?_)
  simpa [Holds, and_assoc] using h run hRun

/-- Where the image of a character that a run holds lies. -/
theorem CaseRun.image_bounds {run : CaseRun} {n : Nat} (hPositive : 0 ≤ run.1 + run.2.2.2)
    (hHolds : run.Holds n) :
    run.image.1 ≤ (n + run.2.2.2).toNat ∧ (n + run.2.2.2).toNat ≤ run.image.2 ∧
      (n + run.2.2.2).toNat = run.image.1 + (n - run.1) := by
  obtain ⟨hFirst, hLast, -⟩ := hHolds
  simp only [image]
  omega

theorem CaseRun.not_holds_of_avoids {run other : CaseRun} {n : Nat}
    (hPositive : 0 ≤ run.1 + run.2.2.2) (hHolds : run.Holds n) (h : run.avoids other = true) :
    ¬other.Holds (n + run.2.2.2).toNat := by
  obtain ⟨hLow, hHigh, hImage⟩ := image_bounds hPositive hHolds
  obtain ⟨hFirst, hLast, hStride⟩ := hHolds
  rintro ⟨hFirst', hLast', hStride'⟩
  simp only [avoids, Bool.or_eq_true, Bool.and_eq_true, Nat.blt_eq, beq_iff_eq] at h
  rcases h with (h | h) | ⟨⟨hTwo, hGaps⟩, hOdd⟩
  · omega
  · omega
  · -- Every second code point is in `other`, and the images have the other parity.
    rw [hTwo] at hStride'
    rcases hGaps with hGaps | hSingle
    · rw [hGaps] at hStride
      omega
    · omega

/-- A character that is its own small form, and neither blank nor a colon, a dash or an
underscore. -/
structure Settled (c : Char) : Prop where
  lowerForm : lowerForm c = [c]
  notBlank : isBlank c = false
  notColon : c ≠ ':'
  notJoiner : c ≠ '-' ∧ c ≠ '_'

theorem settled_of_misses {c : Char}
    (hMisses : ∀ range ∈ unsettledRanges, c.toNat < range.1 ∨ range.2 < c.toNat)
    (hImage : CaseRun.image? lowerRuns c.toNat = none) : Settled c := by
  simp only [unsettledRanges, List.forall_mem_cons, List.not_mem_nil, false_implies,
    implies_true, and_true] at hMisses
  refine ⟨?_, ?_, ?_, ?_, ?_⟩
  · unfold lowerForm
    split
    · have hNotUpper : ¬(c.val ≥ 'A'.val ∧ c.val ≤ 'Z'.val) := by
        rintro ⟨-, hLe⟩
        have hLe : c.toNat ≤ 0x5a := UInt32.le_iff_toNat_le.mp hLe
        omega
      have hOwn : c.toLower = c := dif_neg hNotUpper
      rw [hOwn]
    · have hExpansion : lowerExpansions.lookup c.toNat = none := by
        refine List.lookup_eq_none_iff.mpr fun entry hEntry => ?_
        obtain rfl := List.mem_singleton.mp hEntry
        have hNe : c.toNat ≠ 0x130 := by omega
        exact bne_iff_ne.mpr hNe
      rw [caseForm, hExpansion, hImage]
  · rw [← Bool.not_eq_true]
    simp only [isBlank, Bool.or_eq_true, Bool.and_eq_true, decide_eq_true_eq, beq_iff_eq]
    omega
  all_goals
    rintro rfl
    exact absurd hMisses.1 (by decide)

instance (c : Char) : Decidable (Settled c) :=
  decidable_of_iff (lowerForm c = [c] ∧ isBlank c = false ∧ c ≠ ':' ∧ c ≠ '-' ∧ c ≠ '_')
    ⟨fun h => ⟨h.1, h.2.1, h.2.2.1, h.2.2.2⟩, fun h => ⟨h.1, h.2, h.3, h.4⟩⟩

/-- The null character, and the small forms of the two capitals that no run holds. -/
theorem settled_apart :
    Settled '\x00' ∧ (Settled 'i' ∧ Settled '\u0307') ∧ Settled 'σ' ∧ Settled 'ς' := by
  decide +kernel

/-- The images of the runs are settled. -/
theorem settled_image {n m : Nat} (h : CaseRun.image? lowerRuns n = some m) :
    Settled (Char.ofNat m) := by
  obtain ⟨run, hRun, hHolds, rfl⟩ := CaseRun.image?_eq_some h
  obtain ⟨hBoth, hAvoids⟩ := Bool.and_eq_true_iff.mp (List.all_eq_true.mp lowerRuns_settled run hRun)
  obtain ⟨hFirst, hMisses⟩ := Bool.and_eq_true_iff.mp hBoth
  have hPositive : 0 ≤ run.1 + run.2.2.2 := of_decide_eq_true hFirst
  obtain ⟨hLow, hHigh, -⟩ := CaseRun.image_bounds hPositive hHolds
  by_cases hValid : (n + run.2.2.2).toNat.isValidChar
  · have hNat : (Char.ofNat (n + run.2.2.2).toNat).toNat = (n + run.2.2.2).toNat := by
      rw [Char.ofNat, dif_pos hValid]
      rfl
    apply settled_of_misses
    · intro range hRange
      have hMisses := List.all_eq_true.mp hMisses range hRange
      simp only [CaseRun.misses, Bool.or_eq_true, Nat.blt_eq] at hMisses
      omega
    · rw [hNat]
      refine CaseRun.image?_eq_none fun other hOther => ?_
      exact CaseRun.not_holds_of_avoids hPositive hHolds
        (List.all_eq_true.mp hAvoids other hOther)
  · -- An image that is no code point would become the character zero, which is settled as well.
    have hNull : Char.ofNat (n + run.2.2.2).toNat = '\x00' := by
      rw [Char.ofNat, dif_neg hValid]
      rfl
    rw [hNull]
    exact settled_apart.1

/-- The small letters of ASCII are of ASCII, and settled unless they were there before. -/
theorem toLower_ascii {c : Char} (h : c.val < 128) :
    c.toLower.val < 128 ∧ (c.toLower = c ∨ Settled c.toLower) :=
  forall_ascii (P := fun c => c.toLower.val < 128 ∧ (c.toLower = c ∨ Settled c.toLower))
    (by decide +kernel) h

theorem lowerForm_sigma : lowerForm 'Σ' = ['σ'] := by
  decide +kernel

/-- A character is its own small form, or its small form is made of settled characters. -/
theorem lowerForm_settled (c : Char) :
    lowerForm c = [c] ∨ ∀ d ∈ lowerForm c, Settled d := by
  unfold lowerForm
  split
  · next hSmall =>
    rcases (toLower_ascii hSmall).2 with hSame | hSettled
    · exact .inl (by rw [hSame])
    · exact .inr fun d hd => List.mem_singleton.mp hd ▸ hSettled
  · unfold caseForm
    split
    · next form hForm =>
      obtain ⟨-, rfl⟩ := Prod.ext_iff.mp (List.mem_singleton.mp (mem_of_lookup hForm))
      exact .inr (List.forall_mem_cons.mpr
        ⟨settled_apart.2.1.1, List.forall_mem_singleton.mpr settled_apart.2.1.2⟩)
    · split
      · next m hImage => exact .inr fun d hd => List.mem_singleton.mp hd ▸ settled_image hImage
      · exact .inl rfl

theorem lowerForm_ne_nil (c : Char) : lowerForm c ≠ [] := by
  unfold lowerForm
  split
  · exact List.cons_ne_nil _ _
  · unfold caseForm
    split
    · next form hForm =>
      obtain ⟨-, rfl⟩ := Prod.ext_iff.mp (List.mem_singleton.mp (mem_of_lookup hForm))
      exact List.cons_ne_nil _ _
    · split <;> exact List.cons_ne_nil _ _

section Lowered

variable {before s : List Char} {d : Char}

/-- The small form of a text begins with what its first character becomes, which is that character
or is settled. -/
theorem loweredFrom_cons (before : List Char) (c : Char) (rest : List Char) :
    ∃ form, loweredFrom before (c :: rest) = form ++ loweredFrom (c :: before) rest ∧ form ≠ [] ∧
      ((lowerForm c = [c] ∧ form = [c]) ∨ ∀ d ∈ form, Settled d) := by
  refine ⟨_, rfl, ?_⟩
  by_cases hSigma : c = 'Σ'
  · -- Only this form depends on the characters around it.
    rw [if_pos hSigma]
    refine ⟨List.cons_ne_nil _ _, .inr (List.forall_mem_singleton.mpr ?_)⟩
    split
    · exact settled_apart.2.2.2
    · exact settled_apart.2.2.1
  · rw [if_neg hSigma]
    exact ⟨lowerForm_ne_nil c, (lowerForm_settled c).imp_left fun h => ⟨h, h⟩⟩

theorem mem_loweredFrom (h : d ∈ loweredFrom before s) :
    lowerForm d = [d] ∧ (d ∈ s ∨ Settled d) := by
  induction s generalizing before with
  | nil => cases h
  | cons c rest ih =>
    obtain ⟨form, hForm, -, hOwn | hSettled⟩ := loweredFrom_cons before c rest
    all_goals
      rw [hForm] at h
      rcases List.mem_append.mp h with hHere | hRest
    · obtain ⟨hSame, rfl⟩ := hOwn
      obtain rfl := List.mem_singleton.mp hHere
      exact ⟨hSame, .inl List.mem_cons_self⟩
    · exact (ih hRest).imp_right fun h => h.imp_left (List.mem_cons_of_mem c)
    · exact ⟨(hSettled d hHere).lowerForm, .inr (hSettled d hHere)⟩
    · exact (ih hRest).imp_right fun h => h.imp_left (List.mem_cons_of_mem c)

theorem loweredFrom_eq_self (h : ∀ d ∈ s, lowerForm d = [d]) : loweredFrom before s = s := by
  induction s generalizing before with
  | nil => rfl
  | cons c rest ih =>
    obtain ⟨hFirst, hRest⟩ := List.forall_mem_cons.mp h
    have hSigma : c ≠ 'Σ' := by
      rintro rfl
      rw [lowerForm_sigma] at hFirst
      exact absurd hFirst (by decide)
    rw [loweredFrom, if_neg hSigma, hFirst, ih hRest]
    rfl

/-- The small form of a text has no smaller one. -/
theorem lowered_lowered (s : List Char) : lowered (lowered s) = lowered s :=
  loweredFrom_eq_self fun _ hd => (mem_loweredFrom hd).1

theorem head?_loweredFrom (h : (loweredFrom before s).head? = some d) :
    s.head? = some d ∨ Settled d := by
  cases s with
  | nil => cases h
  | cons c rest =>
    obtain ⟨form, hForm, hNonempty, hCase⟩ := loweredFrom_cons before c rest
    rw [hForm, List.head?_append, List.head?_eq_some_head hNonempty, Option.some_or,
      ← List.head?_eq_some_head hNonempty] at h
    rcases hCase with ⟨-, rfl⟩ | hSettled
    · exact .inl h
    · exact .inr (hSettled d (List.mem_of_head? h))

theorem loweredFrom_ne_nil {c : Char} {rest : List Char} :
    loweredFrom before (c :: rest) ≠ [] := by
  obtain ⟨form, hForm, hNonempty, -⟩ := loweredFrom_cons before c rest
  rw [hForm]
  exact List.append_ne_nil_of_left_ne_nil hNonempty _

theorem getLast?_loweredFrom (h : (loweredFrom before s).getLast? = some d) :
    s.getLast? = some d ∨ Settled d := by
  induction s generalizing before with
  | nil => cases h
  | cons c rest ih =>
    obtain ⟨form, hForm, -, hCase⟩ := loweredFrom_cons before c rest
    rw [hForm] at h
    cases rest with
    | nil =>
      rw [loweredFrom, List.append_nil] at h
      rcases hCase with ⟨-, rfl⟩ | hSettled
      · exact .inl h
      · exact .inr (hSettled d (List.mem_of_getLast? h))
    | cons c' rest =>
      rw [List.getLast?_append, List.getLast?_eq_some_getLast loweredFrom_ne_nil, Option.some_or,
        ← List.getLast?_eq_some_getLast] at h
      rw [List.getLast?_cons_cons]
      exact ih h

end Lowered

section Ascii

theorem lowerForm_of_ascii {c : Char} (h : c.val < 128) : lowerForm c = [c.toLower] := if_pos h

/-- Only one character has a small form of more than one, and the second of those is not in
ASCII. -/
theorem exists_lowerForm_eq {c : Char} (h : ∀ d ∈ lowerForm c, d.val < 128) :
    ∃ d, lowerForm c = [d] := by
  by_cases hSmall : c.val < 128
  · exact ⟨_, lowerForm_of_ascii hSmall⟩
  · rw [lowerForm, if_neg hSmall] at h ⊢
    unfold caseForm at h ⊢
    cases hForm : lowerExpansions.lookup c.toNat with
    | some form =>
      rw [hForm] at h
      have hAscii : ∀ d ∈ form.map Char.ofNat, d.val < 128 := h
      obtain ⟨-, rfl⟩ := Prod.ext_iff.mp (List.mem_singleton.mp (mem_of_lookup hForm))
      exact absurd (hAscii '\u0307' (by decide)) (by decide)
    | none =>
      dsimp only
      split <;> exact ⟨_, rfl⟩

/-- The texts that have a given text of ASCII as their small form. -/
theorem loweredFrom_eq_iff {before s t : List Char} (hAscii : ∀ d ∈ t, d.val < 128) :
    loweredFrom before s = t ↔ s.map lowerForm = t.map fun d => [d] := by
  induction s generalizing before t with
  | nil => rw [loweredFrom, List.map_nil, eq_comm, eq_comm (a := []), List.map_eq_nil_iff]
  | cons c rest ih =>
    rw [loweredFrom]
    constructor
    · rintro rfl
      obtain ⟨hFirst, hRest⟩ := List.forall_mem_append.mp hAscii
      have hSigma : c ≠ 'Σ' := by
        rintro rfl
        rw [if_pos rfl, List.forall_mem_singleton] at hFirst
        split at hFirst <;> exact absurd hFirst (by decide)
      rw [if_neg hSigma] at hFirst ⊢
      obtain ⟨d, hForm⟩ := exists_lowerForm_eq hFirst
      rw [hForm, List.singleton_append, List.map_cons, List.map_cons, hForm, (ih hRest).mp rfl]
    · intro h
      rw [List.map_cons] at h
      obtain ⟨d, t, rfl, hForm, hSame⟩ := List.map_eq_cons_iff.mp h.symm
      obtain ⟨hFirst, hRest⟩ := List.forall_mem_cons.mp hAscii
      have hSigma : c ≠ 'Σ' := by
        rintro rfl
        obtain rfl : d = 'σ' := List.singleton_inj.mp (hForm.trans lowerForm_sigma)
        exact absurd hFirst (by decide)
      rw [if_neg hSigma, ← hForm, (ih hRest).mpr hSame.symm, List.singleton_append]

/-- A text has the small form of a text of ASCII if their characters have the same small forms, one
by one. -/
theorem lowered_eq_lowered_iff {s t : List Char} (hAscii : ∀ d ∈ t, d.val < 128) :
    lowered s = lowered t ↔ s.map lowerForm = t.map lowerForm := by
  have hForms : t.map lowerForm = (t.map Char.toLower).map fun d => [d] := by
    rw [List.map_map]
    exact List.map_congr_left fun d hd => lowerForm_of_ascii (hAscii d hd)
  have hSmall : ∀ d ∈ t.map Char.toLower, d.val < 128 :=
    List.forall_mem_map.mpr fun d hd => (toLower_ascii (hAscii d hd)).1
  have hLowered : lowered t = t.map Char.toLower := (loweredFrom_eq_iff hSmall).mpr hForms
  rw [hLowered, hForms]
  exact loweredFrom_eq_iff hSmall

end Ascii

/-- A blank is its own small form. -/
theorem lowerForm_of_isBlank {c : Char} (h : isBlank c) : lowerForm c = [c] :=
  forall_isBlank (P := fun c => lowerForm c = [c]) (by decide +kernel) h

/-- No character at the ends of a trimmed text becomes blank in small letters. -/
theorem trimmed_lowered_trimmed (s : List Char) :
    trimmed (lowered (trimmed s)) = lowered (trimmed s) := by
  apply trimmed_eq_self
  · intro c hc
    exact (head?_loweredFrom hc).elim head?_trimmed Settled.notBlank
  · intro c hc
    exact (getLast?_loweredFrom hc).elim getLast?_trimmed Settled.notBlank

end Intake.Text
