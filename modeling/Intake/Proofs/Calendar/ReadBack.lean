import Intake.Proofs.Calendar.Loose

/-! Reading back what the default formats write. A year of four digits is read by the layout of the
format. Years of fewer digits are written without zeros in front, and neither a layout nor the
international notation reads them, so they are left to the loose reading. It takes three digits for
the year and fewer for a short way to write another one. -/

namespace Intake.Calendar

open Number

namespace Layout

section Sparse

variable {s rest : List Char} {c : Char}

/-- A text without four digits in a row. -/
def Sparse (s : List Char) : Prop := ∀ t, t <:+ s → afterSlots (digits 4) t = none

theorem afterSlots_eq_none_of_length {slots : List Slot} (h : s.length < slots.length) :
    afterSlots slots s = none := by
  induction slots generalizing s with
  | nil => simp at h
  | cons slot slots ih =>
    cases s with
    | nil => rfl
    | cons c s =>
      rw [afterSlots, ih (by simpa using h)]
      exact ite_self none

theorem Sparse.short (h : s.length < 4) : Sparse s := fun _ ht =>
  afterSlots_eq_none_of_length (ht.length_le.trans_lt h)

theorem Sparse.append (h : s.length < 4) (hOther : Text.isDecimalDigit c = false)
    (hRest : Sparse rest) : Sparse (s ++ c :: rest) := by
  induction s with
  | nil =>
    intro t ht
    rcases List.suffix_cons_iff.mp ht with rfl | hLater
    · exact afterSlots_digits_eq_none (s := []) h hOther
    · exact hRest t hLater
  | cons d s ih =>
    intro t ht
    rcases List.suffix_cons_iff.mp ht with rfl | hLater
    · exact afterSlots_digits_eq_none (s := d :: s) h hOther
    · exact ih (Nat.lt_of_succ_lt h) t hLater

theorem takes_year_eq_nil (h : Sparse s) : (Item.part .year).takes s = [] := by
  have hNone := h s List.suffix_rfl
  simp only [Item.takes, forms, List.filterMap_cons, List.filterMap_nil, hNone, Option.map_none]

/-- Every layout of dates and date-times wants a year of four digits. -/
theorem readLayouts?_eq_none (h : Sparse s) : readLayouts? dateTimeLayouts s = none := by
  have hYears : ∀ l ∈ dateTimeLayouts, Item.part .year ∈ l.items := by decide +kernel
  refine List.findSome?_eq_none_iff.mpr fun l hl => ?_
  have hNone : l.fields? s = none :=
    fields?_eq_none (hYears l hl) fun t ht => takes_year_eq_nil fun u hu => h u (hu.trans ht)
  rw [read?, hNone, Option.bind_none]

end Sparse

end Layout

section Years

variable {d : Date} {t : DateTime}

theorem length_year_lt (h : d.year < 1000) : (digitsOf d.year).length < 4 :=
  Nat.lt_succ_of_le ((Nat.length_toDigits_le_iff (by decide) (by decide)).mpr h)

open Layout

theorem sparse_clock (c : Clock) : Sparse c.shown := by
  obtain ⟨hHour, hMinute, hSecond, -⟩ := c.valid
  have hTwo {n : Nat} (h : n < 60) : (padded 2 n).length < 4 := by
    rw [length_padded_two (by omega)]
    decide
  exact .append (hTwo (by omega)) (by decide) (.append (hTwo hMinute) (by decide)
    (.short (hTwo hSecond)))

theorem sparse_date_append (h : d.year < 1000) {more : List Char}
    (hMore : Sparse (padded 2 d.day ++ more)) : Sparse (d.shown ++ more) := by
  have hMonth : (padded 2 d.month).length < 4 := by
    rw [length_padded_two d.month_lt]
    decide
  have hText : d.shown ++ more = digitsOf d.year ++
      '-' :: (padded 2 d.month ++ '-' :: (padded 2 d.day ++ more)) := by
    simp [Date.shown]
  rw [hText]
  exact .append (length_year_lt h) (by decide) (.append hMonth (by decide) hMore)

theorem length_day_lt (d : Date) : (padded 2 d.day).length < 4 := by
  rw [length_padded_two d.day_lt]
  decide

theorem sparse_date (h : d.year < 1000) : Sparse d.shown := by
  rw [← List.append_nil d.shown]
  refine sparse_date_append h (.short ?_)
  rw [List.append_nil]
  exact length_day_lt d

theorem sparse_dateTime (h : t.date.year < 1000) : Sparse t.shown :=
  sparse_date_append h (.append (length_day_lt t.date) (by decide) (sparse_clock t.clock))

end Years

namespace Iso

/-- No number has a dash behind its digits. -/
theorem count?_eq_none {s rest : List Char} (hSome : s ≠ []) (hDigits : ∀ c ∈ s, c.isDigit) :
    count? (s ++ '-' :: rest) = none := by
  obtain ⟨first, more, rfl⟩ := List.exists_cons_of_ne_nil hSome
  have hFirst : first.isDigit := hDigits first List.mem_cons_self
  have hSpacing : isSpacing first = false := by
    rw [isSpacing, isBlank_of_isDigit hFirst, Bool.false_and]
  have hKept : (first :: more ++ '-' :: rest).dropWhile isSpacing =
      first :: more ++ ['-'] ++ rest := by
    rw [List.append_assoc]
    exact Text.dropWhile_eq_self fun c hc => Option.some.inj hc ▸ hSpacing
  have hEnd : Text.dropEnd isSpacing (first :: more ++ ['-'] ++ rest) =
      first :: more ++ ['-'] ++ Text.dropEnd isSpacing rest := by
    refine Text.dropEnd_append fun c hc => ?_
    rw [List.getLast?_append_cons] at hc
    obtain rfl : '-' = c := Option.some.inj hc
    decide
  have hSigned : signed (first :: more ++ ['-'] ++ Text.dropEnd isSpacing rest) =
      (false, first :: more ++ ['-'] ++ Text.dropEnd isSpacing rest) := by
    refine signed_text .none fun c hc => ?_
    obtain rfl : first = c := Option.some.inj hc
    constructor <;> rintro rfl <;> exact absurd hFirst (by decide)
  have hDash : digitsValue? (Text.pieces '_'
      (first :: more ++ ['-'] ++ Text.dropEnd isSpacing rest)).flatten = none := by
    rw [Text.flatten_pieces]
    exact digitsValue?_eq_none (c := '-') (by simp) (by decide)
  unfold count?
  rw [hKept, hEnd, hSigned]
  dsimp only
  rw [hDash]
  exact ite_self none

/-- No day begins with less than four digits. -/
theorem read_eq_none {s rest : List Char} (hSome : s ≠ []) (hDigits : ∀ c ∈ s, c.isDigit)
    (hShort : s.length < 4) : read (s ++ '-' :: rest) = .ok none := by
  have hNumber : number? 4 (s ++ '-' :: rest) = none := by
    obtain ⟨k, hk⟩ := Nat.exists_eq_add_of_lt hShort
    have hTake : (s ++ '-' :: rest).take 4 = s ++ '-' :: rest.take k := by
      rw [List.take_append, hk, List.take_of_length_le (by omega)]
      have hLeft : s.length + k + 1 - s.length = k + 1 := by omega
      rw [hLeft, List.take_succ_cons]
    rw [number?, hTake, count?_eq_none hSome hDigits]
  have hCalendar : calendarDay? (s ++ '-' :: rest) = none := by
    unfold calendarDay?
    rw [hNumber]
    exact ite_self none
  have hOther : otherDay (s ++ '-' :: rest) = .ok none := by
    unfold otherDay
    rw [hNumber]
    exact ite_self (Except.ok none)
  rw [read, day, hCalendar, hOther]
  exact ite_self _

end Iso

section ReadBack

variable {now : Date} {d : Date} {t : DateTime}

theorem readDateTime_of_blankless {s : List Char} (hSome : s ≠ [])
    (hBlank : ∀ a ∈ s, Text.isBlank a = false) :
    readDateTime now (String.ofList s) =
      match readLayouts? dateTimeLayouts s with
      | some r => .ok (some r.moment)
      | none => readFree now s := by
  have hText : (String.ofList s).isEmpty = false := by simpa using hSome
  have hTrimmed : Text.trimmed s = s := Text.trimmed_of_noBlank hBlank
  rw [readDateTime, hText, String.toList_ofList, hTrimmed]
  rfl

theorem isBlank_of_mem_date {a : Char} (h : a ∈ d.shown) : Text.isBlank a = false :=
  isBlank_of_mem_shown (t := ⟨d, default⟩) (List.mem_append_left _ h)

theorem readDateTime_of_layout {s : List Char} {r : Reading} (hSome : s ≠ [])
    (hBlank : ∀ a ∈ s, Text.isBlank a = false) (h : readLayouts? dateTimeLayouts s = some r) :
    readDateTime now (String.ofList s) = .ok (some r.moment) := by
  rw [readDateTime_of_blankless hSome hBlank, h]

/-- What no layout reads is read loosely if it begins with a year of less than four digits. -/
theorem readDateTime_of_loose {s more : List Char} {found : Option Reading}
    (hText : s = Number.digitsOf d.year ++ '-' :: more)
    (hBlank : ∀ a ∈ s, Text.isBlank a = false) (hSparse : Layout.Sparse s) (hYear : d.year < 1000)
    (hLoose : Loose.read now s = .ok found) (hOffset : ∀ r ∈ found, r.offset = none) :
    readDateTime now (String.ofList s) = .ok (found.map Reading.moment) := by
  have hIso : Iso.read s = .ok none := hText ▸ Iso.read_eq_none (digitsOf_ne_nil _)
    (fun _ => isDigit_of_mem_digitsOf) (length_year_lt hYear)
  rw [readDateTime_of_blankless (by simp [hText]) hBlank, Layout.readLayouts?_eq_none hSparse]
  simp only [readFree, hIso, bind, Except.bind, hLoose]
  cases found with
  | none => rfl
  | some r => simp [Reading.universal, hOffset r rfl, pure, Except.pure]

theorem shown_dateTime (t : DateTime) : t.shown = Number.digitsOf t.date.year ++
    '-' :: (padded 2 t.date.month ++ '-' :: (padded 2 t.date.day ++ 'T' :: t.clock.shown)) := by
  simp [DateTime.shown, Date.shown]

/-- A day from the year 100 on is read back. -/
theorem readDateTime_date (now : Date) (hYear : 100 ≤ d.year) :
    readDateTime now (String.ofList d.shown) = .ok (some ⟨d, Clock.midnight⟩) := by
  have hBlank : ∀ a ∈ d.shown, Text.isBlank a = false := fun _ => isBlank_of_mem_date
  by_cases hFour : 1000 ≤ d.year
  · exact readDateTime_of_layout (by simp [Date.shown]) hBlank (readLayouts?_date d hFour)
  · have hHigh : d.year < 1000 := by omega
    exact readDateTime_of_loose rfl hBlank (sparse_date hHigh) hHigh (Loose.read_date hYear hHigh)
      (by simp)

/-- A moment from the year 100 on is read back without its microseconds. -/
theorem readDateTime_dateTime (now : Date) (hYear : 100 ≤ t.date.year) :
    readDateTime now (String.ofList t.shown) = .ok (some t.wholeSeconds) := by
  have hBlank : ∀ a ∈ t.shown, Text.isBlank a = false := fun _ => isBlank_of_mem_shown
  by_cases hFour : 1000 ≤ t.date.year
  · exact readDateTime_of_layout (by simp [DateTime.shown]) hBlank (readLayouts?_dateTime hFour)
  · have hHigh : t.date.year < 1000 := by omega
    exact readDateTime_of_loose (shown_dateTime t) hBlank (sparse_dateTime hHigh) hHigh
      (Loose.read_dateTime hYear hHigh) (by simp)

/-- A time is read back without its microseconds. -/
theorem readClock_clock (now : Date) (c : Clock) :
    readClock now (String.ofList c.shown) = .ok (some c.wholeSeconds) := by
  have hBlank : ∀ a ∈ c.shown, Text.isBlank a = false := fun _ ha =>
    isBlank_of_mem_shown (t := ⟨default, c⟩) (List.mem_append_right _ (List.mem_cons_of_mem _ ha))
  have hText : (String.ofList c.shown).isEmpty = false := by simp [Clock.shown]
  have hTrimmed : Text.trimmed c.shown = c.shown := Text.trimmed_of_noBlank hBlank
  rw [readClock, hText, String.toList_ofList, hTrimmed, readLayouts?_clock]
  rfl

section Early

variable (hNow : 150 ≤ now.year)

include hNow

/-- What is read loosely of a text that begins with a year below 100 has another year. -/
theorem readDateTime_early {s more : List Char} {list : List Loose.Token} {f : Loose.Findings}
    (hText : s = Number.digitsOf d.year ++ '-' :: more)
    (hBlank : ∀ a ∈ s, Text.isBlank a = false) (hSparse : Layout.Sparse s) (hYear : d.year < 100)
    (hTokens : Loose.tokens s = list)
    (hRead : Loose.readFrom now.year (list.length + 1) list.toArray 0 {} = .ok f)
    (hParts : f.parts = (Loose.dateFindings d).parts) (hWeekday : f.weekday = none)
    (hZone : f.zone = none) (hOffset : f.offset = none) :
    ∃ found, readDateTime now (String.ofList s) = .ok found ∧
      ∀ t ∈ found, 100 ≤ t.date.year := by
  have hShort : f.parts = Loose.dayParts d.year d.month d.day false := by
    rw [hParts]
    simp [Loose.dateFindings, Nat.not_le.mpr hYear]
  obtain ⟨found, hLoose, hFound⟩ :=
    Loose.read_early hTokens hRead hShort hWeekday hZone hOffset hYear hNow
  refine ⟨_, readDateTime_of_loose hText hBlank hSparse (by omega) hLoose fun r hr =>
    (hFound r hr).1, fun t ht => ?_⟩
  obtain ⟨r, hr, rfl⟩ := Option.map_eq_some_iff.mp ht
  exact (hFound r hr).2

theorem readDateTime_early_date (hYear : d.year < 100) :
    ∃ found, readDateTime now (String.ofList d.shown) = .ok found ∧
      ∀ t ∈ found, 100 ≤ t.date.year := by
  have hHigh : d.year < 1000 := by omega
  exact readDateTime_early hNow rfl (fun _ => isBlank_of_mem_date) (sparse_date hHigh) hYear
    (Loose.tokens_date d) (Loose.readFrom_date hHigh) rfl rfl rfl rfl

theorem readDateTime_early_dateTime (hYear : t.date.year < 100) :
    ∃ found, readDateTime now (String.ofList t.shown) = .ok found ∧
      ∀ t ∈ found, 100 ≤ t.date.year := by
  have hHigh : t.date.year < 1000 := by omega
  exact readDateTime_early hNow (shown_dateTime t) (fun _ => isBlank_of_mem_shown)
    (sparse_dateTime hHigh) hYear (Loose.tokens_dateTime t) (Loose.readFrom_dateTime hHigh) rfl rfl
    rfl rfl

end Early

end ReadBack

end Intake.Calendar
