import Intake.Calendar.Written
import Intake.Proofs.Calendar.Counting
import Intake.Proofs.Calendar.Shown

/-! Reading by layouts what the default formats write. A field takes its digits off the front of a
text whatever follows them, so a layout takes the texts of its items one after the other. A layout
with blanks takes no text without any, and one with a year none without four digits in a row. -/

namespace Intake.Calendar

namespace Layout

open Number

section Slots

variable {slots : List Slot} {s rest : List Char}

theorem afterSlots_append (h : slots.length ≤ s.length) :
    afterSlots slots (s ++ rest) = (afterSlots slots s).map (· ++ rest) := by
  induction slots generalizing s with
  | nil => rfl
  | cons slot slots ih =>
    cases s with
    | nil => simp at h
    | cons c s =>
      simp only [List.cons_append, afterSlots]
      split
      · exact ih (by simpa using h)
      · rfl

/-- As many decimal digits as wanted are taken. -/
theorem afterSlots_digits (h : ∀ c ∈ s, Text.isDecimalDigit c) :
    afterSlots (digits s.length) s = some [] := by
  induction s with
  | nil => rfl
  | cons c s ih =>
    obtain ⟨hFirst, hRest⟩ := List.forall_mem_cons.mp h
    simp only [digits, List.length_cons, List.replicate_succ, afterSlots, Slot.admits, hFirst]
    exact ih hRest

/-- Too few digits are not taken. -/
theorem afterSlots_digits_eq_none {n : Nat} {c : Char} (h : s.length < n)
    (hOther : Text.isDecimalDigit c = false) : afterSlots (digits n) (s ++ c :: rest) = none := by
  induction s generalizing n with
  | nil =>
    obtain ⟨m, rfl⟩ := Nat.exists_eq_succ_of_ne_zero (Nat.ne_of_gt h)
    simp [digits, List.replicate_succ, afterSlots, Slot.admits, hOther]
  | cons d s ih =>
    obtain ⟨m, rfl⟩ := Nat.exists_eq_succ_of_ne_zero (Nat.ne_of_gt (Nat.zero_lt_of_lt h))
    simp only [digits, List.replicate_succ, List.cons_append, afterSlots]
    split
    · exact ih (by simpa using h)
    · rfl

theorem afterSlots_suffix {more : List Char} (h : afterSlots slots s = some more) : more <:+ s := by
  induction slots generalizing s with
  | nil =>
    cases h
    exact List.suffix_rfl
  | cons slot slots ih =>
    cases s with
    | nil => cases h
    | cons c s =>
      rw [afterSlots] at h
      split at h
      · exact (ih h).trans (List.suffix_cons c s)
      · cases h

end Slots

/-- The first way to take a field off a text that begins with `text` is to take that. -/
def TakesFirst (field : LayoutField) (text : List Char) : Prop :=
  ∀ rest, ∃ others, (Item.part field).takes (text ++ rest) = (some (field, text), rest) :: others

/-- Items take `text` off any text that begins so, and find the fields `found` in it. -/
def Reads (items : List Item) (text : List Char) (found : List Found) : Prop :=
  ∀ rest, firstMatch items (text ++ rest) = some (found, rest)

section Taking

variable {field : LayoutField} {text : List Char}

theorem takes_append (h : ∀ form ∈ forms field, form.length ≤ text.length) (rest : List Char) :
    (Item.part field).takes (text ++ rest) =
      ((Item.part field).takes text).map fun (found, more) => (found, more ++ rest) := by
  simp only [Item.takes, List.map_filterMap]
  refine List.filterMap_congr fun form hForm => ?_
  rw [afterSlots_append (h form hForm), List.take_append_of_le_length (h form hForm)]
  cases afterSlots form text <;> rfl

/-- What comes first for the text alone comes first for every text that begins so, if no form of
the field is longer. -/
theorem takesFirst_of_head? (h : ∀ form ∈ forms field, form.length ≤ text.length)
    (hFirst : ((Item.part field).takes text).head? = some (some (field, text), [])) :
    TakesFirst field text := by
  intro rest
  obtain ⟨others, hTakes⟩ := List.head?_eq_some_iff.mp hFirst
  rw [takes_append h, hTakes]
  exact ⟨_, rfl⟩

theorem takesFirst_year {y : Nat} (hLow : 1000 ≤ y) (hHigh : y ≤ 9999) :
    TakesFirst .year (digitsOf y) := by
  have hLength : (digitsOf y).length = 4 := by
    have hMost : (digitsOf y).length ≤ 4 :=
      (Nat.length_toDigits_le_iff (by decide) (by decide)).mpr (by omega)
    have hMore : ¬(digitsOf y).length ≤ 3 := fun hFew => by
      have hLess := (Nat.length_toDigits_le_iff (by decide) (by decide)).mp hFew
      omega
    omega
  have hForms : ∀ form ∈ forms .year, form.length ≤ (digitsOf y).length := by
    rw [hLength]
    decide
  refine takesFirst_of_head? hForms ?_
  have hAfter := afterSlots_digits (s := digitsOf y) fun c hc =>
    isDecimalDigit_of_isDigit (isDigit_of_mem_digitsOf hc)
  rw [hLength] at hAfter
  have hTake : (digitsOf y).take 4 = digitsOf y := List.take_of_length_le (Nat.le_of_eq hLength)
  have hFour : (digits 4).length = 4 := rfl
  simp only [Item.takes, forms, List.filterMap_cons, List.filterMap_nil, hAfter, Option.map_some,
    hFour, hTake, List.head?_cons]

/-- The fields of two digits, with the least number that each can have and how many there are. -/
def twoDigitFields : List (LayoutField × Nat × Nat) :=
  [(.month, 1, 12), (.dayOfMonth, 1, 31), (.hour, 0, 24), (.minute, 0, 60), (.second, 0, 60)]

theorem takesFirst_padded (low count : Nat) {n : Nat}
    (hField : (field, low, count) ∈ twoDigitFields) (hLow : low ≤ n) (hHigh : n < low + count) :
    TakesFirst field (padded 2 n) := by
  have hForms : ∀ entry ∈ twoDigitFields, entry.2.1 + entry.2.2 ≤ 100 ∧
      ∀ form ∈ forms entry.1, form.length ≤ 2 := by
    decide
  have hHead : ∀ entry ∈ twoDigitFields, ∀ n ∈ List.range' entry.2.1 entry.2.2,
      ((Item.part entry.1).takes (padded 2 n)).head? =
        some (some (entry.1, padded 2 n), []) := by
    decide +kernel
  obtain ⟨hBound, hTwo⟩ := hForms _ hField
  have hLength : (padded 2 n).length = 2 := length_padded_two (hHigh.trans_le hBound)
  refine takesFirst_of_head? (fun form hForm => ?_) ?_
  · exact (hTwo form hForm).trans_eq hLength.symm
  · exact hHead _ hField n (List.mem_range'_1.mpr ⟨hLow, hHigh⟩)

end Taking

section Reads

variable {field : LayoutField} {items : List Item} {text more : List Char} {found : List Found}

theorem Reads.nil : Reads [] [] [] := fun _ => rfl

theorem Reads.part (hFirst : TakesFirst field text) (h : Reads items more found) :
    Reads (.part field :: items) (text ++ more) ((field, text) :: found) := by
  intro rest
  obtain ⟨others, hTakes⟩ := hFirst (more ++ rest)
  rw [List.append_assoc, firstMatch, hTakes, List.findSome?_cons]
  simp only [h rest]
  rfl

theorem Reads.character {c : Char} (h : Reads items text found) :
    Reads (.character c :: items) (c :: text) found := by
  intro rest
  have hSame : sameLetter c c = true := by simp [sameLetter]
  rw [List.cons_append, firstMatch, Item.takes, if_pos hSame, List.findSome?_cons]
  simp only [h rest]
  rfl

theorem Reads.fields? (h : Reads items text found) : Layout.fields? ⟨items⟩ text = some found := by
  have hMatch := h []
  rw [List.append_nil] at hMatch
  rw [Layout.fields?, hMatch]

/-- A layout does not read a text that goes on behind what its items take. -/
theorem Reads.fields?_append (h : Reads items text found) {rest : List Char} (hRest : rest ≠ []) :
    Layout.fields? ⟨items⟩ (text ++ rest) = none := by
  obtain ⟨c, rest, rfl⟩ := List.exists_cons_of_ne_nil hRest
  rw [Layout.fields?, h]

end Reads

section Needs

variable {items : List Item} {s rest : List Char} {found : List Found}

theorem suffix_of_takes {item : Item} {taken : Option Found} (h : (taken, rest) ∈ item.takes s) :
    rest <:+ s := by
  cases item with
  | part field =>
    obtain ⟨form, -, hForm⟩ := List.mem_filterMap.mp h
    obtain ⟨more, hMore, hRest⟩ := Option.map_eq_some_iff.mp hForm
    cases hRest
    exact afterSlots_suffix hMore
  | blanks =>
    obtain ⟨n, -, hRest⟩ := List.mem_map.mp h
    cases hRest
    exact List.drop_suffix _ _
  | character c =>
    cases s with
    | nil => cases h
    | cons d s =>
      simp only [Item.takes] at h
      split at h
      · cases List.mem_singleton.mp h
        exact List.suffix_cons d _
      · cases h

/-- Each item of a layout takes something of a part of the text. -/
theorem exists_takes_of_firstMatch {item : Item} (h : firstMatch items s = some (found, rest))
    (hItem : item ∈ items) : ∃ t, t <:+ s ∧ item.takes t ≠ [] := by
  induction items generalizing s found rest with
  | nil => cases hItem
  | cons first items ih =>
    obtain ⟨⟨taken, more⟩, hTaken, hMore⟩ := List.exists_of_findSome?_eq_some h
    obtain ⟨⟨found', rest'⟩, hMatch, -⟩ := Option.map_eq_some_iff.mp hMore
    rcases List.mem_cons.mp hItem with rfl | hLater
    · exact ⟨s, List.suffix_rfl, List.ne_nil_of_mem hTaken⟩
    · obtain ⟨t, ht, hTakes⟩ := ih hMatch hLater
      exact ⟨t, ht.trans (suffix_of_takes hTaken), hTakes⟩

/-- A layout does not read a text in no part of which one of its items takes anything. -/
theorem fields?_eq_none {l : Layout} {item : Item} (hItem : item ∈ l.items)
    (h : ∀ t, t <:+ s → item.takes t = []) : l.fields? s = none := by
  unfold Layout.fields?
  split
  · next hMatch =>
    obtain ⟨t, ht, hTakes⟩ := exists_takes_of_firstMatch hMatch hItem
    exact absurd (h t ht) hTakes
  · rfl

theorem takes_blanks_eq_nil (h : ∀ c ∈ s, Text.isBlank c = false) : Item.blanks.takes s = [] := by
  cases s with
  | nil => rfl
  | cons c s =>
    have hFirst : Text.isBlank c = false := h c List.mem_cons_self
    simp [Item.takes, hFirst]

end Needs

section Fields

variable (d : Date) (c : Clock)

/-- The items of the default format of days. -/
def dateItems : List Item :=
  [.part .year, .character '-', .part .month, .character '-', .part .dayOfMonth]

/-- The items of the default format of times. -/
def clockItems : List Item :=
  [.part .hour, .character ':', .part .minute, .character ':', .part .second]

/-- What is found of a day in the default format. -/
def dateFields : List Found :=
  [(.year, digitsOf d.year), (.month, padded 2 d.month), (.dayOfMonth, padded 2 d.day)]

/-- What is found of a time in the default format. -/
def clockFields : List Found :=
  [(.hour, padded 2 c.hour), (.minute, padded 2 c.minute), (.second, padded 2 c.second)]

theorem reads_clock : Reads clockItems c.shown (clockFields c) := by
  obtain ⟨hHour, hMinute, hSecond, -⟩ := c.valid
  have hSecondFirst : TakesFirst .second (padded 2 c.second) :=
    takesFirst_padded 0 60 (by decide) (Nat.zero_le _) (by omega)
  have hMinuteFirst : TakesFirst .minute (padded 2 c.minute) :=
    takesFirst_padded 0 60 (by decide) (Nat.zero_le _) (by omega)
  have hHourFirst : TakesFirst .hour (padded 2 c.hour) :=
    takesFirst_padded 0 24 (by decide) (Nat.zero_le _) (by omega)
  have hReads := Reads.part hHourFirst (.character (c := ':') (.part hMinuteFirst
    (.character (c := ':') (.part hSecondFirst .nil))))
  rw [List.append_nil] at hReads
  exact hReads

/-- A day whose year has four digits is read in front of what is read behind it. -/
theorem reads_date (hYear : 1000 ≤ d.year) {items : List Item} {more : List Char}
    {found : List Found} (h : Reads items more found) :
    Reads (dateItems ++ items) (d.shown ++ more) (dateFields d ++ found) := by
  obtain ⟨⟨-, hHigh⟩, ⟨hMonth, hMonth'⟩, hDay, hDay'⟩ := d.valid
  have hLast := d.day_le
  have hDayFirst : TakesFirst .dayOfMonth (padded 2 d.day) :=
    takesFirst_padded 1 31 (by decide) hDay (by omega)
  have hMonthFirst : TakesFirst .month (padded 2 d.month) :=
    takesFirst_padded 1 12 (by decide) hMonth (by omega)
  have hReads := Reads.part (takesFirst_year hYear hHigh) (.character (c := '-')
    (.part hMonthFirst (.character (c := '-') (.part hDayFirst h))))
  simpa [Date.shown, dateItems, dateFields] using hReads

theorem filter_padded (n : Nat) : (padded 2 n).filter (· != ' ') = padded 2 n := by
  refine List.filter_eq_self.mpr fun c hc => bne_iff_ne.mpr ?_
  rintro rfl
  exact absurd (isDigit_of_mem_padded hc) (by decide)

theorem ofParts?_clock : Clock.ofParts? c.hour c.minute c.second 0 = some c.wholeSeconds :=
  c.wholeSeconds.ofParts?_self

theorem reading?_date : reading? (dateFields d) = some ⟨⟨d, Clock.midnight⟩, none⟩ := by
  simp [reading?, dateFields, addField, digitsValue?_digitsOf, digitsValue?_padded, filter_padded,
    day?, coherent, Date.ofParts?_self]
  rfl

theorem reading?_dateTime :
    reading? (dateFields d ++ clockFields c) = some ⟨⟨d, c.wholeSeconds⟩, none⟩ := by
  simp [reading?, dateFields, clockFields, addField, digitsValue?_digitsOf, digitsValue?_padded,
    filter_padded, day?, coherent, Date.ofParts?_self, ofParts?_clock]

theorem reading?_clock :
    reading? (clockFields c) = some ⟨⟨⟨1900, 1, 1, by decide⟩, c.wholeSeconds⟩, none⟩ := by
  have hNewYear : Date.ofParts? 1900 1 1 = some ⟨1900, 1, 1, by decide⟩ := rfl
  simp [reading?, clockFields, addField, digitsValue?_padded, day?, coherent, hNewYear,
    ofParts?_clock]

end Fields

end Layout

section Reading

open Layout

variable (d : Date) (c : Clock)

theorem isBlank_of_isDigit {a : Char} (h : a.isDigit) : Text.isBlank a = false :=
  Text.isBlank_of_isDecimalDigit (Number.isDecimalDigit_of_isDigit h)

/-- A character of a day or a time in a default format is a digit or a mark between digits. -/
theorem mem_shown {t : DateTime} {a : Char} (h : a ∈ t.shown) :
    a.isDigit ∨ a ∈ ['-', 'T', ':'] := by
  simp only [DateTime.shown, Date.shown, Clock.shown, List.mem_append, List.mem_cons] at h
  rcases h with (h | rfl | h | rfl | h) | rfl | h | rfl | h | rfl | h
  · exact .inl (isDigit_of_mem_digitsOf h)
  all_goals first
    | exact .inl (isDigit_of_mem_padded h)
    | exact .inr (by decide)

theorem isBlank_of_mem_shown {t : DateTime} {a : Char} (h : a ∈ t.shown) :
    Text.isBlank a = false := by
  have hMarks : ∀ a ∈ ['-', 'T', ':'], Text.isBlank a = false := by
    simp [Text.isBlank]
  exact (mem_shown h).elim isBlank_of_isDigit (hMarks a)

theorem readLayouts?_date (hYear : 1000 ≤ d.year) :
    readLayouts? dateTimeLayouts d.shown = some ⟨⟨d, Clock.midnight⟩, none⟩ := by
  have hFirst : dateTimeLayouts.head? = some ⟨dateItems⟩ := rfl
  obtain ⟨others, hLayouts⟩ := List.head?_eq_some_iff.mp hFirst
  have hReads := reads_date d hYear .nil
  rw [List.append_nil, List.append_nil, List.append_nil] at hReads
  rw [readLayouts?, hLayouts, List.findSome?_cons, read?, hReads.fields?, Option.bind_some,
    reading?_date]

/-- The layouts in front of that of the default format take too little or want a blank. -/
theorem readLayouts?_dateTime {t : DateTime} (hYear : 1000 ≤ t.date.year) :
    readLayouts? dateTimeLayouts t.shown = some ⟨t.wholeSeconds, none⟩ := by
  have hLayouts : dateTimeLayouts = [⟨dateItems⟩, ⟨dateItems ++ .blanks :: clockItems⟩,
      ⟨dateItems ++ .blanks :: clockItems ++ [.character '.', .part .fraction]⟩,
      ⟨dateItems ++ .character 'T' :: clockItems⟩] ++ dateTimeLayouts.drop 4 := rfl
  have hFirst : fields? ⟨dateItems⟩ t.shown = none := by
    have hReads := reads_date t.date hYear .nil
    rw [List.append_nil, List.append_nil, List.append_nil] at hReads
    exact hReads.fields?_append (List.cons_ne_nil _ _)
  have hBlanks (l : Layout) (hItem : .blanks ∈ l.items) : l.fields? t.shown = none :=
    fields?_eq_none hItem fun _ ht =>
      takes_blanks_eq_nil fun _ ha => isBlank_of_mem_shown (ht.subset ha)
  have hReads := reads_date t.date hYear (.character (c := 'T') (reads_clock t.clock))
  have hRead : read? ⟨dateItems ++ .character 'T' :: clockItems⟩ t.shown =
      some ⟨t.wholeSeconds, none⟩ := by
    rw [read?, show fields? _ t.shown = _ from hReads.fields?, Option.bind_some,
      reading?_dateTime]
    rfl
  rw [readLayouts?, hLayouts]
  simp only [List.cons_append, List.findSome?_cons, read?, hFirst, Option.bind_none,
    hBlanks ⟨dateItems ++ .blanks :: clockItems⟩ (by decide),
    hBlanks ⟨dateItems ++ .blanks :: clockItems ++ [.character '.', .part .fraction]⟩ (by decide)]
  rw [← read?, hRead]

theorem readLayouts?_clock : readLayouts? clockLayouts c.shown =
    some ⟨⟨⟨1900, 1, 1, by decide⟩, c.wholeSeconds⟩, none⟩ := by
  have hFirst : clockLayouts.head? = some ⟨clockItems⟩ := rfl
  obtain ⟨others, hLayouts⟩ := List.head?_eq_some_iff.mp hFirst
  rw [readLayouts?, hLayouts, List.findSome?_cons, read?, (reads_clock c).fields?, Option.bind_some,
    reading?_clock]

end Reading

end Intake.Calendar
