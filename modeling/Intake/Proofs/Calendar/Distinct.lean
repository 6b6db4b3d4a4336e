import Intake.Calendar.Written
import Intake.Proofs.Calendar.Shown
import Intake.Proofs.Text.Small

/-! What a text that a layout reads looks like. The marks between its numbers are those of the layout
up to case, and the layout bounds the number of characters in front of the first mark. Both can be
told from the text alone, however the fields share its digits and blanks. So no text can be read by two
of the fixed layouts: two of them have different marks, or what one takes in front of the first mark is
too long for the other. Their order does not decide what is read. -/

namespace Intake.Calendar

namespace Layout

/-- Whether a character is neither a digit nor blank. -/
def isMark (c : Char) : Bool := !Text.isDecimalDigit c && !Text.isBlank c

/-- The marks of a text in capitals. -/
def marks (s : List Char) : List Char := (s.filter isMark).map Char.toUpper

/-- How many characters stand in front of the first mark of a text. -/
def front (s : List Char) : Nat := (s.takeWhile fun c => !isMark c).length

section Texts

variable {s t : List Char}

theorem marks_append (s t : List Char) : marks (s ++ t) = marks s ++ marks t := by
  simp [marks]

theorem marks_eq_nil (h : ∀ c ∈ s, isMark c = false) : marks s = [] := by
  simpa [marks] using h

theorem front_append (h : ∀ c ∈ s, isMark c = false) : front (s ++ t) = s.length + front t := by
  have hFront : ∀ c ∈ s, (!isMark c) = true := by simpa using h
  rw [front, List.takeWhile_append_of_pos hFront, List.length_append, front]

theorem front_cons_of_mark {c : Char} (h : isMark c = true) : front (c :: s) = 0 := by
  simp [front, h]

end Texts

/-! ### Pieces -/

/-- The pieces of a text that an item can take. -/
inductive Item.Fits : Item → List Char → Prop
  | part {field : LayoutField} {form : List Slot} {piece : List Char} : form ∈ forms field →
    List.Forall₂ (fun slot c => slot.admits c) form piece → Fits (.part field) piece
  | blanks {piece : List Char} : piece ≠ [] → (∀ c ∈ piece, Text.isBlank c) → Fits .blanks piece
  | character {c d : Char} : sameLetter c d → Fits (.character c) [d]

/-- The texts that items can take, each item its piece. -/
inductive Fits : List Item → List Char → Prop
  | nil : Fits [] []
  | cons {item : Item} {items : List Item} {piece more : List Char} :
    item.Fits piece → Fits items more → Fits (item :: items) (piece ++ more)

section Pieces

variable {s rest : List Char}

theorem exists_piece_of_afterSlots {slots : List Slot} (h : afterSlots slots s = some rest) :
    ∃ piece, s = piece ++ rest ∧ List.Forall₂ (fun slot c => slot.admits c) slots piece := by
  induction slots generalizing s with
  | nil =>
    cases h
    exact ⟨[], rfl, .nil⟩
  | cons slot slots ih =>
    cases s with
    | nil => cases h
    | cons c s =>
      rw [afterSlots] at h
      split at h
      · next hAdmits =>
        obtain ⟨piece, rfl, hPiece⟩ := ih h
        exact ⟨c :: piece, rfl, .cons hAdmits hPiece⟩
      · cases h

theorem exists_slot {form : List Slot} {piece : List Char} {c : Char}
    (h : List.Forall₂ (fun slot c => slot.admits c) form piece) (hc : c ∈ piece) :
    ∃ slot ∈ form, slot.admits c := by
  obtain ⟨i, hi, rfl⟩ := List.getElem_of_mem hc
  exact ⟨form.get ⟨i, h.length_eq ▸ hi⟩, List.get_mem _ _, h.get _ hi⟩

theorem exists_piece_of_takes {item : Item} {found : Option Found}
    (h : (found, rest) ∈ item.takes s) : ∃ piece, s = piece ++ rest ∧ item.Fits piece := by
  cases item with
  | part field =>
    obtain ⟨form, hForm, hTaken⟩ := List.mem_filterMap.mp h
    obtain ⟨more, hMore, hRest⟩ := Option.map_eq_some_iff.mp hTaken
    cases hRest
    obtain ⟨piece, hText, hPiece⟩ := exists_piece_of_afterSlots hMore
    exact ⟨piece, hText, .part hForm hPiece⟩
  | blanks =>
    obtain ⟨n, hn, hRest⟩ := List.mem_map.mp h
    cases hRest
    have hRun : n < (s.takeWhile Text.isBlank).length := List.mem_range.mp hn
    have hPrefix := List.takeWhile_prefix (l := s) Text.isBlank
    have hPiece : s.take ((s.takeWhile Text.isBlank).length - n) <+: s.takeWhile Text.isBlank :=
      List.prefix_of_prefix_length_le (List.take_prefix _ _) hPrefix
        ((List.length_take_le _ _).trans (Nat.sub_le _ _))
    refine ⟨_, (List.take_append_drop _ s).symm, .blanks ?_ fun c hc => ?_⟩
    · have hLength := hPrefix.length_le
      refine List.ne_nil_of_length_pos ?_
      rw [List.length_take]
      omega
    · exact List.all_eq_true.mp List.all_takeWhile c (hPiece.subset hc)
  | character c =>
    cases s with
    | nil => cases h
    | cons d s =>
      simp only [Item.takes] at h
      split at h
      · next hSame =>
        cases List.mem_singleton.mp h
        exact ⟨[d], rfl, .character hSame⟩
      · cases h

theorem exists_fits_of_firstMatch {items : List Item} {found : List Found}
    (h : firstMatch items s = some (found, rest)) : ∃ t, s = t ++ rest ∧ Fits items t := by
  induction items generalizing s found with
  | nil =>
    cases h
    exact ⟨[], rfl, .nil⟩
  | cons item items ih =>
    obtain ⟨⟨taken, more⟩, hTaken, hMore⟩ := List.exists_of_findSome?_eq_some h
    obtain ⟨⟨found', rest'⟩, hMatch, hEnd⟩ := Option.map_eq_some_iff.mp hMore
    cases hEnd
    obtain ⟨piece, rfl, hPiece⟩ := exists_piece_of_takes hTaken
    obtain ⟨t, rfl, ht⟩ := ih hMatch
    exact ⟨piece ++ t, (List.append_assoc _ _ _).symm, .cons hPiece ht⟩

/-- A text in which a layout finds its fields is made of pieces for its items. -/
theorem fits_of_fields? {l : Layout} {found : List Found} (h : l.fields? s = some found) :
    Fits l.items s := by
  unfold fields? at h
  split at h
  · next hMatch =>
    obtain ⟨t, hText, ht⟩ := exists_fits_of_firstMatch hMatch
    rwa [hText, List.append_nil]
  · cases h

end Pieces

/-! ### Items of numbers -/

/-- The marks that layouts of numbers have between their fields. -/
def knownMarks : List Char := ['-', '/', '.', ':', 'T', 'Z']

/-- Whether a slot admits nothing but digits and blanks. -/
def Slot.isPlain : Slot → Bool
  | digit => true
  | range first last => '0' ≤ first && last ≤ '9' || first == ' ' && last == ' '
  | letter _ => false

/-- Whether an item is a number, a run of blanks or a known mark. -/
def Item.isPlain : Item → Bool
  | part field => (forms field).all fun form => form.all Slot.isPlain
  | blanks => true
  | character c => knownMarks.contains c

/-- The marks of items in capitals. -/
def itemMarks (items : List Item) : List Char :=
  items.flatMap fun
    | .character c => [c.toUpper]
    | _ => []

/-- The least number of characters that items take in front of their first mark. -/
def leastFront : List Item → Nat
  | .part field :: items => ((forms field).map List.length).min?.getD 0 + leastFront items
  | .blanks :: items => 1 + leastFront items
  | .character _ :: _ | [] => 0

/-- The greatest number of characters that items take in front of their first mark, if there are no
blanks to take. -/
def mostFront? : List Item → Option Nat
  | .part field :: items =>
    (mostFront? items).map (((forms field).map List.length).max?.getD 0 + ·)
  | .blanks :: _ => none
  | .character _ :: _ | [] => some 0

section Letters

open Text

/-- Whether tables of forms lead to none of some characters: the expansions are longer than one
character, and no run has one of them as an image. -/
def leadsToNone (expansions : List (Nat × List Nat)) (runs : List CaseRun) (targets : List Char) :
    Bool :=
  expansions.all (fun entry => entry.2.length != 1) &&
    runs.all fun run => decide (0 ≤ run.1 + run.2.2.2) &&
      targets.all fun a => run.misses (a.toNat, a.toNat)

theorem upperTables_leadToNone :
    leadsToNone upperExpansions upperRuns (knownMarks.map Char.toUpper) = true := by
  decide +kernel

theorem lowerTables_leadToNone :
    leadsToNone lowerExpansions lowerRuns (knownMarks.map Char.toLower) = true := by
  decide +kernel

/-- A character that the tables do not lead to is no other one's form. -/
theorem caseForm_ne {expansions : List (Nat × List Nat)} {runs : List CaseRun}
    {targets : List Char} {a c : Char} (h : leadsToNone expansions runs targets = true)
    (ha : a ∈ targets) (hNull : a ≠ '\x00') (hOther : c ≠ a) :
    caseForm expansions runs c ≠ [a] := by
  obtain ⟨hLong, hRuns⟩ := Bool.and_eq_true_iff.mp h
  unfold caseForm
  split
  · next form hForm =>
    intro hEq
    have hLength := List.all_eq_true.mp hLong _ (mem_of_lookup hForm)
    have hOne := congrArg List.length hEq
    rw [List.length_map] at hOne
    simp [hOne] at hLength
  · split
    · next m hImage =>
      obtain ⟨run, hRun, hHolds, rfl⟩ := CaseRun.image?_eq_some hImage
      obtain ⟨hPositive, hTargets⟩ := Bool.and_eq_true_iff.mp (List.all_eq_true.mp hRuns run hRun)
      obtain ⟨hLow, hHigh, -⟩ := CaseRun.image_bounds (of_decide_eq_true hPositive) hHolds
      have hMiss := List.all_eq_true.mp hTargets a ha
      simp only [CaseRun.misses, Bool.or_eq_true, Nat.blt_eq] at hMiss
      intro hEq
      have hChar : Char.ofNat (c.toNat + run.2.2.2).toNat = a := List.singleton_inj.mp hEq
      by_cases hValid : (c.toNat + run.2.2.2).toNat.isValidChar
      · have hNat : (Char.ofNat (c.toNat + run.2.2.2).toNat).toNat = (c.toNat + run.2.2.2).toNat := by
          rw [Char.ofNat, dif_pos hValid]
          rfl
        rw [hChar] at hNat
        omega
      · rw [Char.ofNat, dif_neg hValid] at hChar
        exact hNull hChar.symm
    · exact fun hEq => hOther (List.singleton_inj.mp hEq)

/-- The known marks have their usual forms, and are told from the other characters below 128. -/
theorem knownMarks_ascii :
    (knownMarks.all fun m => decide ((lowerForm m = [m.toLower] ∧ upperForm m = [m.toUpper] ∧
      m.toNat < 128 ∧ m.toLower.toNat < 128 ∧ m.toUpper.toNat < 128 ∧ m.toLower ≠ '\x00' ∧
      m.toUpper ≠ '\x00') ∧ ∀ n : Nat, n < 128 → sameLetter m (Char.ofNat n) →
        (Char.ofNat n).toUpper = m.toUpper ∧ isMark (Char.ofNat n))) = true := by
  decide +kernel

/-- Only the two cases of a known mark are the same as it up to case. -/
theorem mark_of_sameLetter {m c : Char} (hKnown : m ∈ knownMarks) (h : sameLetter m c) :
    c.toUpper = m.toUpper ∧ isMark c := by
  -- The characters below 128 are tried one by one. Above, a form of `c` comes from the tables, and no
  -- entry of them is a mark.
  obtain ⟨⟨hLower, hUpper, hOwn, hLowerAscii, hUpperAscii, hLowerNull, hUpperNull⟩, hMark⟩ :=
    of_decide_eq_true (List.all_eq_true.mp knownMarks_ascii m hKnown)
  by_cases hAscii : c.val < 128
  · exact forall_ascii (P := fun c => sameLetter m c → c.toUpper = m.toUpper ∧ isMark c) hMark
      hAscii h
  · have hLarge : 128 ≤ c.toNat := Nat.le_of_not_lt fun hLt => hAscii (UInt32.lt_iff_toNat_lt.mpr hLt)
    have hNe {a : Char} (ha : a.toNat < 128) : c ≠ a := fun hEq => by
      rw [hEq] at hLarge
      omega
    have hNotLower : lowerForm c ≠ [m.toLower] := by
      rw [lowerForm, if_neg hAscii]
      exact caseForm_ne lowerTables_leadToNone (List.mem_map_of_mem hKnown) hLowerNull
        (hNe hLowerAscii)
    have hNotUpper : upperForm c ≠ [m.toUpper] := by
      rw [upperForm, if_neg hAscii]
      exact caseForm_ne upperTables_leadToNone (List.mem_map_of_mem hKnown) hUpperNull
        (hNe hUpperAscii)
    simp only [sameLetter, hLower, hUpper, Bool.or_eq_true, beq_iff_eq] at h
    rcases h with (h | h) | h
    · exact absurd h.symm (hNe hOwn)
    · exact absurd h.symm hNotLower
    · exact absurd h.symm hNotUpper

end Letters

section Outline

theorem isMark_of_admits {slot : Slot} {c : Char} (hPlain : slot.isPlain) (h : slot.admits c) :
    isMark c = false := by
  have hDecimal (hc : Text.isDecimalDigit c) : isMark c = false := by simp [isMark, hc]
  cases slot with
  | digit => exact hDecimal h
  | range first last =>
    simp only [Slot.admits, Slot.isPlain, Bool.and_eq_true, Bool.or_eq_true, decide_eq_true_eq,
      beq_iff_eq] at h hPlain
    rcases hPlain with ⟨hFirst, hLast⟩ | ⟨rfl, rfl⟩
    · refine hDecimal (Number.isDecimalDigit_of_isDigit ?_)
      have hLow : '0' ≤ c := Char.le_trans hFirst h.1
      have hHigh : c ≤ '9' := Char.le_trans h.2 hLast
      exact Bool.and_eq_true_iff.mpr ⟨decide_eq_true hLow, decide_eq_true hHigh⟩
    · rw [Char.le_antisymm h.2 h.1]
      decide
  | letter d => cases hPlain

variable {item : Item} {items : List Item} {piece t : List Char}

theorem isMark_of_mem_part {field : LayoutField} (hPlain : (Item.part field).isPlain)
    (h : (Item.part field).Fits piece) :
    (∀ c ∈ piece, isMark c = false) ∧ piece.length ∈ (forms field).map List.length := by
  cases h with
  | part hForm hPiece =>
    refine ⟨fun c hc => ?_, List.mem_map.mpr ⟨_, hForm, hPiece.length_eq⟩⟩
    obtain ⟨slot, hSlot, hAdmits⟩ := exists_slot hPiece hc
    exact isMark_of_admits (List.all_eq_true.mp (List.all_eq_true.mp hPlain _ hForm) slot hSlot)
      hAdmits

theorem isMark_of_mem_blanks (h : Item.blanks.Fits piece) : ∀ c ∈ piece, isMark c = false := by
  cases h with
  | blanks _ hBlank =>
    intro c hc
    simp [isMark, hBlank c hc]

/-- The marks of a text that items take are those of the items. -/
theorem Fits.marks_eq (h : Fits items t) (hPlain : items.all Item.isPlain) :
    marks t = itemMarks items := by
  induction h with
  | nil => rfl
  | @cons item items piece more hPiece _ ih =>
    obtain ⟨hItem, hItems⟩ := Bool.and_eq_true_iff.mp hPlain
    rw [marks_append, ih hItems]
    cases item with
    | part field => rw [marks_eq_nil (isMark_of_mem_part hItem hPiece).1]; rfl
    | blanks => rw [marks_eq_nil (isMark_of_mem_blanks hPiece)]; rfl
    | character m =>
      cases hPiece with
      | @character _ d hSame =>
        obtain ⟨hUpper, hMark⟩ := mark_of_sameLetter (List.contains_iff_mem.mp hItem) hSame
        simp [marks, itemMarks, hMark, hUpper]

/-- What stands in front of the first mark of a text that items take is as long as they allow. -/
theorem Fits.front_bounds (h : Fits items t) (hPlain : items.all Item.isPlain) :
    leastFront items ≤ front t ∧ ∀ n ∈ mostFront? items, front t ≤ n := by
  induction h with
  | nil => simp [leastFront, mostFront?, front]
  | @cons item items piece more hPiece _ ih =>
    obtain ⟨hItem, hItems⟩ := Bool.and_eq_true_iff.mp hPlain
    obtain ⟨hLeast, hMost⟩ := ih hItems
    cases item with
    | part field =>
      obtain ⟨hMarks, hLength⟩ := isMark_of_mem_part hItem hPiece
      have hLow := List.min?_getD_le_of_mem (k := 0) hLength
      have hHigh := List.le_max?_getD_of_mem (k := 0) hLength
      rw [front_append hMarks]
      refine ⟨Nat.add_le_add hLow hLeast, fun n hn => ?_⟩
      obtain ⟨m, hm, rfl⟩ := Option.map_eq_some_iff.mp hn
      exact Nat.add_le_add hHigh (hMost m hm)
    | blanks =>
      rw [front_append (isMark_of_mem_blanks hPiece)]
      cases hPiece with
      | blanks hSome _ =>
        have hLength := List.length_pos_of_ne_nil hSome
        exact ⟨Nat.add_le_add hLength hLeast, fun n hn => nomatch hn⟩
    | character m =>
      cases hPiece with
      | @character _ d hSame =>
        have hMark := (mark_of_sameLetter (List.contains_iff_mem.mp hItem) hSame).2
        rw [List.singleton_append, front_cons_of_mark hMark]
        exact ⟨Nat.le_refl 0, fun n _ => Nat.zero_le n⟩

end Outline

/-! ### Layouts that are apart -/

/-- Whether two layouts of numbers differ in their marks, or in what they take in front of them. -/
def apart (a b : Layout) : Bool :=
  itemMarks a.items != itemMarks b.items ||
    (mostFront? a.items).any (· < leastFront b.items) ||
    (mostFront? b.items).any (· < leastFront a.items)

/-- Whether a layout holds nothing but numbers, blanks and known marks. -/
def isPlain (l : Layout) : Bool := l.items.all Item.isPlain

section Apart

variable {a b : Layout} {s : List Char}

/-- No text is read by two layouts that are apart. -/
theorem not_both_of_apart (hPlain : a.isPlain) (hPlain' : b.isPlain) (h : apart a b)
    (ha : (a.read? s).isSome) (hb : (b.read? s).isSome) : False := by
  have hFits {l : Layout} (hRead : (l.read? s).isSome) : Fits l.items s := by
    obtain ⟨r, hr⟩ := Option.isSome_iff_exists.mp hRead
    obtain ⟨found, hFound, -⟩ := Option.bind_eq_some_iff.mp hr
    exact fits_of_fields? hFound
  have hMarks := ((hFits ha).marks_eq hPlain).symm.trans ((hFits hb).marks_eq hPlain')
  obtain ⟨hLeast, hMost⟩ := (hFits ha).front_bounds hPlain
  obtain ⟨hLeast', hMost'⟩ := (hFits hb).front_bounds hPlain'
  simp only [apart, Bool.or_eq_true, bne_iff_ne, Option.any_eq_true, decide_eq_true_eq] at h
  rcases h with (h | ⟨n, hn, hLt⟩) | ⟨n, hn, hLt⟩
  · exact h hMarks
  · have hFront := hMost n hn
    omega
  · have hFront := hMost' n hn
    omega

/-- Of layouts that are apart from each other at most one reads a text. -/
theorem countP_read?_le_one {layouts : List Layout} (hPlain : ∀ l ∈ layouts, l.isPlain)
    (hApart : layouts.Pairwise fun a b => apart a b) :
    layouts.countP (fun l => (l.read? s).isSome) ≤ 1 := by
  induction hApart with
  | nil => exact Nat.zero_le 1
  | @cons first others hFirst _ ih =>
    obtain ⟨hFirstPlain, hOthers⟩ := List.forall_mem_cons.mp hPlain
    by_cases hReads : (first.read? s).isSome
    · have hNone : others.countP (fun l => (l.read? s).isSome) = 0 :=
        List.countP_eq_zero.mpr fun other hOther =>
          not_both_of_apart hFirstPlain (hOthers other hOther) (hFirst other hOther) hReads
      rw [List.countP_cons, hNone, if_pos hReads]
    · rw [List.countP_cons, if_neg hReads]
      exact ih hOthers

end Apart

theorem dateTimeLayouts_apart : (∀ l ∈ dateTimeLayouts, l.isPlain) ∧
    dateTimeLayouts.Pairwise fun a b => apart a b := by
  decide +kernel

theorem clockLayouts_apart : (∀ l ∈ clockLayouts, l.isPlain) ∧
    clockLayouts.Pairwise fun a b => apart a b := by
  decide +kernel

end Layout

section Orders

variable {α β : Type} {p : α → Bool} {f : α → Option β}

/-- What at most one element of a list has, two elements of it have only if they are one. -/
theorem eq_of_countP_le_one {list : List α} {a b : α} (h : list.countP p ≤ 1) (ha : a ∈ list)
    (hb : b ∈ list) (hpa : p a) (hpb : p b) : a = b := by
  rw [List.countP_eq_length_filter] at h
  have hMem {x : α} (hx : x ∈ list) (hpx : p x) : x ∈ list.filter p := List.mem_filter.mpr ⟨hx, hpx⟩
  rcases hFilter : list.filter p with _ | ⟨first, _ | ⟨second, more⟩⟩
  · exact absurd (hMem ha hpa) (by simp [hFilter])
  · have ha := hMem ha hpa
    have hb := hMem hb hpb
    rw [hFilter] at ha hb
    exact (List.mem_singleton.mp ha).trans (List.mem_singleton.mp hb).symm
  · rw [hFilter] at h
    simp at h

/-- Where at most one element of a list has a result, the list can be searched in any order. -/
theorem findSome?_eq_of_perm {list list' : List α} (hPerm : list'.Perm list)
    (h : list.countP (fun a => (f a).isSome) ≤ 1) : list'.findSome? f = list.findSome? f := by
  cases hFound : list.findSome? f with
  | none =>
    rw [List.findSome?_eq_none_iff] at hFound ⊢
    exact fun a ha => hFound a (hPerm.mem_iff.mp ha)
  | some b =>
    obtain ⟨a, ha, hResult⟩ := List.exists_of_findSome?_eq_some hFound
    have hSome : (list'.findSome? f).isSome :=
      List.findSome?_isSome_iff.mpr ⟨a, hPerm.mem_iff.mpr ha, by simp [hResult]⟩
    obtain ⟨b', hFound'⟩ := Option.isSome_iff_exists.mp hSome
    obtain ⟨a', ha', hResult'⟩ := List.exists_of_findSome?_eq_some hFound'
    obtain rfl : a' = a := eq_of_countP_le_one h (hPerm.mem_iff.mp ha') ha (by simp [hResult'])
      (by simp [hResult])
    rw [hFound', ← hResult', hResult]

end Orders

/-- The texts of the fixed layouts in any order. -/
structure LayoutOrder where
  days : List String
  clocks : List String
  perm_days : days.Perm dateTimeLayoutTexts
  perm_clocks : clocks.Perm clockLayoutTexts

namespace LayoutOrder

instance : Inhabited LayoutOrder := ⟨⟨dateTimeLayoutTexts, clockLayoutTexts, .refl _, .refl _⟩⟩

/-- Reads a date or date-time, the layouts being tried in another order. -/
def readDateTime (order : LayoutOrder) (now : Date) (s : String) :
    Except Fault (Option DateTime) :=
  if s.isEmpty then .ok none
  else
    let s := Text.trimmed s.toList
    match readLayouts? (order.days.filterMap Layout.ofString?) s with
    | some r => .ok (some r.moment)
    | none => readFree now s

/-- Reads a time of day, the layouts being tried in another order. -/
def readClock (order : LayoutOrder) (now : Date) (s : String) : Except Fault (Option Clock) :=
  if s.isEmpty then .ok none
  else
    match readLayouts? (order.clocks.filterMap Layout.ofString?) (Text.trimmed s.toList) with
    | some r => .ok (some r.moment.clock)
    | none => do return (← order.readDateTime now (Text.trim s)).map DateTime.clock

/-- Reads a moment in a layout of the caller's own or else in another order. -/
def readDateTimeIn (order : LayoutOrder) (now : Date) (layout : Option String) (s : String) :
    Except Fault (Option Reading) :=
  let own := (ownLayout? layout).bind fun l => l.read? (Text.trimmed s.toList)
  match own with
  | some r => if s.isEmpty then .ok none else .ok (some r)
  | none => do return (← order.readDateTime now s).map fun t => ⟨t, none⟩

/-- Reads a time of day in a layout of the caller's own or else in another order. -/
def readClockIn (order : LayoutOrder) (now : Date) (layout : Option String) (s : String) :
    Except Fault (Option Clock) :=
  let own := (ownLayout? layout).bind fun l => l.read? (Text.trimmed s.toList)
  match own with
  | some r => if s.isEmpty then .ok none else .ok (some r.moment.clock)
  | none => order.readClock now s

variable (order : LayoutOrder)

theorem readDateTime_eq : order.readDateTime = Calendar.readDateTime := by
  have hLayouts (s : List Char) : readLayouts? (order.days.filterMap Layout.ofString?) s =
      readLayouts? dateTimeLayouts s :=
    findSome?_eq_of_perm (order.perm_days.filterMap _)
      (Layout.countP_read?_le_one Layout.dateTimeLayouts_apart.1 Layout.dateTimeLayouts_apart.2)
  funext now s
  rw [readDateTime, Calendar.readDateTime]
  dsimp only
  rewrite [hLayouts]
  rfl

theorem readClock_eq : order.readClock = Calendar.readClock := by
  have hLayouts (s : List Char) : readLayouts? (order.clocks.filterMap Layout.ofString?) s =
      readLayouts? clockLayouts s :=
    findSome?_eq_of_perm (order.perm_clocks.filterMap _)
      (Layout.countP_read?_le_one Layout.clockLayouts_apart.1 Layout.clockLayouts_apart.2)
  funext now s
  rewrite [readClock, Calendar.readClock, hLayouts, readDateTime_eq]
  rfl

end LayoutOrder

/-- Whether the layout that a text describes reads `s`. -/
def accepts (s : List Char) (layout : String) : Bool :=
  (Layout.ofString? layout).any fun l => (l.read? s).isSome

theorem countP_accepts (s : List Char) (texts : List String) :
    texts.countP (accepts s) =
      (texts.filterMap Layout.ofString?).countP fun l => (l.read? s).isSome := by
  rw [List.countP_filterMap]
  refine congrArg (List.countP · texts) (funext fun layout => ?_)
  cases hLayout : Layout.ofString? layout <;> simp [accepts, hLayout]

/-- Each of the fixed layouts is one, at most one of those of days and at most one of those of times
reads a text, and in whatever order they are tried, every text is read as it is in the given one. -/
theorem layouts_unambiguous :
    (∀ layout ∈ dateTimeLayoutTexts ++ clockLayoutTexts, (Layout.ofString? layout).isSome) ∧
    (∀ s, dateTimeLayoutTexts.countP (accepts s) ≤ 1 ∧ clockLayoutTexts.countP (accepts s) ≤ 1) ∧
    ∀ (order : LayoutOrder) (now : Date) (s : String),
      order.readDateTime now s = readDateTime now s ∧ order.readClock now s = readClock now s ∧
      ∀ layout, order.readDateTimeIn now layout s = readDateTimeIn now layout s ∧
        order.readClockIn now layout s = readClockIn now layout s := by
  refine ⟨by decide +kernel, fun s => ⟨?_, ?_⟩, fun order now s => ⟨?_, ?_, fun layout => ⟨?_, ?_⟩⟩⟩
  · rw [countP_accepts]
    exact Layout.countP_read?_le_one Layout.dateTimeLayouts_apart.1 Layout.dateTimeLayouts_apart.2
  · rw [countP_accepts]
    exact Layout.countP_read?_le_one Layout.clockLayouts_apart.1 Layout.clockLayouts_apart.2
  · rw [order.readDateTime_eq]
  · rw [order.readClock_eq]
  · rewrite [LayoutOrder.readDateTimeIn, order.readDateTime_eq, readDateTimeIn]
    rfl
  · rewrite [LayoutOrder.readClockIn, order.readClock_eq, readClockIn]
    rfl

end Intake.Calendar
