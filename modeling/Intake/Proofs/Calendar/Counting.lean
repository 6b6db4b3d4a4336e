import Intake.Calendar.Date
import Mathlib.Order.Monotone.Basic

/-! Days and moments are counted without gaps. The count of a year, a month and a day is below that of
what follows it, so the search for the part that a count falls into finds the one it came from, and
every count up to the end of the year 9999 is that of one moment. -/

namespace Intake.Calendar

/-- A quotient grows where its divisor divides. -/
theorem succ_div_eq (n k : Nat) : (n + 1) / k = n / k + if (n + 1) % k = 0 then 1 else 0 := by
  rw [Nat.succ_div]
  simp only [Nat.dvd_iff_mod_eq_zero]

theorem daysInYear_eq (year : Nat) : daysInYear year + (if year % 100 = 0 then 1 else 0) =
    365 + (if year % 4 = 0 then 1 else 0) + if year % 400 = 0 then 1 else 0 := by
  have hHundred : year % 100 = 0 → year % 4 = 0 := by omega
  have hFourHundred : year % 400 = 0 → year % 100 = 0 := by omega
  by_cases h4 : year % 4 = 0 <;> by_cases h100 : year % 100 = 0 <;>
    by_cases h400 : year % 400 = 0 <;> simp_all [daysInYear, isLeap]

theorem daysBeforeYear_succ {year : Nat} (h : 1 ≤ year) :
    daysBeforeYear (year + 1) = daysBeforeYear year + daysInYear year := by
  obtain ⟨past, rfl⟩ := Nat.exists_eq_add_of_le' h
  have hStep : (if (past + 1) % 100 = 0 then 1 else 0) ≤ 1 := by split <;> decide
  have hDays := daysInYear_eq (past + 1)
  simp only [daysBeforeYear, Nat.add_sub_cancel, succ_div_eq past]
  omega

theorem daysBeforeYear_mono : Monotone daysBeforeYear := by
  refine monotone_nat_of_le_succ fun year => ?_
  rcases Nat.eq_zero_or_pos year with rfl | hPos
  · exact Nat.le_refl _
  · rw [daysBeforeYear_succ hPos]
    exact Nat.le_add_right _ _

theorem daysBeforeMonth_succ (year : Nat) {month : Nat} (h : 1 ≤ month) :
    daysBeforeMonth year (month + 1) = daysBeforeMonth year month + daysInMonth year month := by
  obtain ⟨m, rfl⟩ := Nat.exists_eq_add_of_le' h
  simp [daysBeforeMonth, List.range_succ]

theorem daysBeforeMonth_mono (year : Nat) : Monotone (daysBeforeMonth year) := by
  refine monotone_nat_of_le_succ fun month => ?_
  rcases Nat.eq_zero_or_pos month with rfl | hPos
  · exact Nat.le_refl _
  · rw [daysBeforeMonth_succ year hPos]
    exact Nat.le_add_right _ _

/-- The months make up the year. -/
theorem daysBeforeMonth_end (year : Nat) : daysBeforeMonth year 13 = daysInYear year := by
  unfold daysInYear
  cases hLeap : isLeap year <;> simp [daysBeforeMonth, daysInMonth, List.range_succ, hLeap]

/-- Of an ascending row the last member that is not above `n` is found. -/
theorem find?_last {f : Nat → Nat} (hMono : Monotone f) {k a n : Nat} (ha : a < k) (hLow : f a ≤ n)
    (hHigh : n < f (a + 1)) : (List.range k).reverse.find? (fun m => f m ≤ n) = some a := by
  induction k with
  | zero => cases ha
  | succ k ih =>
    rw [List.range_succ, List.reverse_concat, List.find?_cons]
    rcases Nat.eq_or_lt_of_le (Nat.le_of_lt_succ ha) with rfl | hLt
    · simp [hLow]
    · have hAbove : ¬f k ≤ n := Nat.not_le.mpr (hHigh.trans_le (hMono hLt))
      simp [hAbove, ih hLt]

/-- Every number that a row reaches and does not end below has a last member that is not above it. -/
theorem exists_last {f : Nat → Nat} {k n : Nat} (hLow : f 0 ≤ n) (hHigh : n < f k) :
    ∃ a < k, f a ≤ n ∧ n < f (a + 1) := by
  induction k with
  | zero => exact absurd hHigh (Nat.not_lt.mpr hLow)
  | succ k ih =>
    by_cases hBelow : f k ≤ n
    · exact ⟨k, Nat.lt_succ_self k, hBelow, hHigh⟩
    · obtain ⟨a, ha, hBounds⟩ := ih (Nat.lt_of_not_le hBelow)
      exact ⟨a, Nat.lt_succ_of_lt ha, hBounds⟩

namespace Date

/-- The year that a count lies in begins before it and ends behind it. -/
theorem yearOfCount_bounds (n : Nat) : daysBeforeYear (yearOfCount n) ≤ n ∧
    n < daysBeforeYear (yearOfCount n + 1) := by
  unfold yearOfCount daysBeforeYear
  dsimp only
  split
  · omega
  · split <;> omega

theorem yearOfCount_eq {n year : Nat} (hLow : daysBeforeYear year ≤ n)
    (hHigh : n < daysBeforeYear (year + 1)) : yearOfCount n = year := by
  obtain ⟨hLow', hHigh'⟩ := yearOfCount_bounds n
  rcases Nat.lt_trichotomy (yearOfCount n) year with hLt | hEq | hGt
  · have hEnd : daysBeforeYear (yearOfCount n + 1) ≤ daysBeforeYear year := daysBeforeYear_mono hLt
    omega
  · exact hEq
  · have hEnd : daysBeforeYear (year + 1) ≤ daysBeforeYear (yearOfCount n) := daysBeforeYear_mono hGt
    omega

variable {d : Date}

theorem ofParts?_self (d : Date) : ofParts? d.year d.month d.day = some d := dif_pos d.valid

theorem eq_of_ofParts? {year month day : Nat} (h : ofParts? year month day = some d) :
    d.year = year ∧ d.month = month ∧ d.day = day := by
  unfold ofParts? at h
  split at h
  · cases h
    exact ⟨rfl, rfl, rfl⟩
  · cases h

/-- A day lies in its year and in its month. -/
theorem count_bounds (d : Date) :
    daysBeforeMonth d.year d.month + (d.day - 1) < daysBeforeMonth d.year (d.month + 1) ∧
      daysBeforeMonth d.year d.month + (d.day - 1) < daysInYear d.year := by
  obtain ⟨-, ⟨hMonth, hMonth'⟩, hDay, hDay'⟩ := d.valid
  have hNext := daysBeforeMonth_succ d.year hMonth
  have hEnd := daysBeforeMonth_mono d.year (show d.month + 1 ≤ 13 by omega)
  rw [daysBeforeMonth_end] at hEnd
  omega

/-- The day with the count of a day is that day. -/
theorem ofCount?_count (d : Date) : ofCount? d.count = some d := by
  obtain ⟨⟨hYear, -⟩, ⟨hMonth, hMonth'⟩, hDay, -⟩ := d.valid
  obtain ⟨hInMonth, hInYear⟩ := d.count_bounds
  have hYearOf : yearOfCount d.count = d.year := by
    refine yearOfCount_eq ?_ ?_
    · unfold count
      omega
    · rw [daysBeforeYear_succ hYear, count]
      omega
  have hRest : d.count - daysBeforeYear d.year =
      daysBeforeMonth d.year d.month + (d.day - 1) := by
    unfold count
    omega
  have hPlace : d.month - 1 + 1 = d.month := Nat.sub_add_cancel hMonth
  -- The row that is searched begins with the first month, so its places are one less than months.
  have hFind : (List.range 12).reverse.find? (fun m => daysBeforeMonth d.year (m + 1) ≤
      daysBeforeMonth d.year d.month + (d.day - 1)) = some (d.month - 1) := by
    refine find?_last (f := fun m => daysBeforeMonth d.year (m + 1)) (fun a b hab =>
      daysBeforeMonth_mono d.year (Nat.succ_le_succ hab)) (by omega) ?_ ?_
    · rw [hPlace]
      exact Nat.le_add_right _ _
    · rw [hPlace]
      exact hInMonth
  have hNonneg : ¬(d.count : Int) < 0 := by omega
  have hParts : daysBeforeMonth d.year d.month + (d.day - 1) - daysBeforeMonth d.year d.month + 1 =
      d.day := by
    omega
  simp only [ofCount?, if_neg hNonneg, Int.toNat_natCast, hYearOf, hRest, hFind, Option.map_some,
    hPlace, hParts, ofParts?_self]

theorem ofCount?_eq_some {n : Int} : ofCount? n = some d ↔ (d.count : Int) = n := by
  refine ⟨fun h => ?_, fun h => h ▸ d.ofCount?_count⟩
  unfold ofCount? at h
  split at h
  · cases h
  · next hNonneg =>
    have hYear := (yearOfCount_bounds n.toNat).1
    dsimp only at h
    split at h
    · cases h
    · next month hMonth =>
      obtain ⟨m, hFind, rfl⟩ := Option.map_eq_some_iff.mp hMonth
      have hLow : daysBeforeMonth (yearOfCount n.toNat) (m + 1) ≤
          n.toNat - daysBeforeYear (yearOfCount n.toNat) := by
        simpa using List.find?_some hFind
      obtain ⟨hYear', hMonth', hDay'⟩ := eq_of_ofParts? h
      simp only [count, hYear', hMonth', hDay']
      omega

/-- How many days there are. -/
def total : Nat := daysBeforeYear 10000

theorem count_lt (d : Date) : d.count < total := by
  obtain ⟨hYear, hYear'⟩ := d.valid.1
  have hInYear := d.count_bounds.2
  have hEnd := daysBeforeYear_mono (show d.year + 1 ≤ 10000 by omega)
  rw [daysBeforeYear_succ hYear] at hEnd
  unfold count total
  omega

/-- No count is left out. -/
theorem exists_count {n : Nat} (h : n < total) : ∃ d : Date, d.count = n := by
  obtain ⟨hLow, hHigh⟩ := yearOfCount_bounds n
  have hYear : 1 ≤ yearOfCount n := by
    rcases Nat.eq_zero_or_pos (yearOfCount n) with hZero | hPos
    · rw [hZero] at hHigh
      exact absurd hHigh (Nat.not_lt_zero n)
    · exact hPos
  have hYear' : yearOfCount n ≤ 9999 := by
    by_contra hBeyond
    have hEnd := daysBeforeYear_mono (show 10000 ≤ yearOfCount n by omega)
    unfold total at h
    omega
  rw [daysBeforeYear_succ hYear, ← daysBeforeMonth_end] at hHigh
  obtain ⟨m, hm, hBelow, hAbove⟩ := exists_last (f := fun m =>
      daysBeforeMonth (yearOfCount n) (m + 1)) (n := n - daysBeforeYear (yearOfCount n)) (k := 12)
    (Nat.zero_le _) (show _ < daysBeforeMonth (yearOfCount n) 13 by omega)
  rw [daysBeforeMonth_succ _ (Nat.le_add_left 1 m)] at hAbove
  refine ⟨⟨yearOfCount n, m + 1, n - daysBeforeYear (yearOfCount n) -
    daysBeforeMonth (yearOfCount n) (m + 1) + 1, ⟨hYear, hYear'⟩, ⟨Nat.le_add_left 1 m, by omega⟩,
    Nat.succ_pos _, by omega⟩, ?_⟩
  simp only [count]
  omega

end Date

namespace Clock

variable {c : Clock}

theorem count_lt (c : Clock) : c.count < DateTime.dayLength := by
  obtain ⟨hHour, hMinute, hSecond, hMicrosecond⟩ := c.valid
  unfold count DateTime.dayLength
  omega

theorem ofParts?_self (c : Clock) : ofParts? c.hour c.minute c.second c.microsecond = some c :=
  dif_pos c.valid

/-- The time with the count of a time is that time. -/
theorem ofParts?_count (c : Clock) :
    ofParts? (c.count / 1000000 / 3600) (c.count / 1000000 / 60 % 60) (c.count / 1000000 % 60)
      (c.count % 1000000) = some c := by
  obtain ⟨hHour, hMinute, hSecond, hMicrosecond⟩ := c.valid
  have hSeconds : c.count / 1000000 = (c.hour * 60 + c.minute) * 60 + c.second := by
    unfold count
    omega
  have hMicros : c.count % 1000000 = c.microsecond := by
    unfold count
    omega
  have hHours : ((c.hour * 60 + c.minute) * 60 + c.second) / 3600 = c.hour := by omega
  have hMinutes : ((c.hour * 60 + c.minute) * 60 + c.second) / 60 % 60 = c.minute := by omega
  have hRest : ((c.hour * 60 + c.minute) * 60 + c.second) % 60 = c.second := by omega
  rw [hMicros, hSeconds, hHours, hMinutes, hRest, ofParts?_self]

theorem count_of_ofParts? {n : Nat} (h : ofParts? (n / 1000000 / 3600) (n / 1000000 / 60 % 60)
    (n / 1000000 % 60) (n % 1000000) = some c) : c.count = n := by
  unfold ofParts? at h
  split at h
  · cases h
    simp only [count]
    omega
  · cases h

theorem exists_count {n : Nat} (h : n < DateTime.dayLength) : ∃ c : Clock, c.count = n := by
  unfold DateTime.dayLength at h
  refine ⟨⟨n / 1000000 / 3600, n / 1000000 / 60 % 60, n / 1000000 % 60, n % 1000000, ?_⟩, ?_⟩
  · omega
  · simp only [count]
    omega

end Clock

namespace DateTime

variable {t : DateTime} {n : Int}

theorem dayLength_pos : 0 < dayLength := by decide

theorem ofCount?_eq (n : Int) : ofCount? n =
    (Date.ofCount? (n / dayLength)).bind fun date =>
      (Clock.ofParts? ((n % dayLength).toNat / 1000000 / 3600)
        ((n % dayLength).toNat / 1000000 / 60 % 60) ((n % dayLength).toNat / 1000000 % 60)
        ((n % dayLength).toNat % 1000000)).map fun clock => ⟨date, clock⟩ := by
  unfold ofCount?
  cases Date.ofCount? (n / dayLength) <;> rfl

/-- The moment with the count of a moment is that moment. -/
theorem ofCount?_count (t : DateTime) : ofCount? t.count = some t := by
  have hDay : (t.count : Int) / dayLength = t.date.count := by
    rw [← Int.natCast_ediv, count, Nat.mul_comm, Nat.mul_add_div dayLength_pos,
      Nat.div_eq_of_lt t.clock.count_lt, Nat.add_zero]
  have hRest : ((t.count : Int) % dayLength).toNat = t.clock.count := by
    rw [← Int.natCast_emod, Int.toNat_natCast, count, Nat.mul_comm, Nat.mul_add_mod,
      Nat.mod_eq_of_lt t.clock.count_lt]
  rw [ofCount?_eq, hDay, Date.ofCount?_count, Option.bind_some, hRest, Clock.ofParts?_count,
    Option.map_some]

theorem ofCount?_eq_some : ofCount? n = some t ↔ (t.count : Int) = n := by
  refine ⟨fun h => ?_, fun h => h ▸ t.ofCount?_count⟩
  rw [ofCount?_eq] at h
  obtain ⟨date, hDate, hTime⟩ := Option.bind_eq_some_iff.mp h
  obtain ⟨clock, hClock, rfl⟩ := Option.map_eq_some_iff.mp hTime
  have hRest : ((n % dayLength).toNat : Int) = n % dayLength :=
    Int.toNat_of_nonneg (Int.emod_nonneg n (by decide))
  rw [count, Int.natCast_add, Int.natCast_mul, Date.ofCount?_eq_some.mp hDate,
    Clock.count_of_ofParts? hClock, hRest, Int.ediv_mul_add_emod]

/-- How many moments there are. -/
def total : Nat := Date.total * dayLength

theorem count_lt (t : DateTime) : t.count < total :=
  calc t.count
    _ < t.date.count * dayLength + dayLength := Nat.add_lt_add_left t.clock.count_lt _
    _ = (t.date.count + 1) * dayLength := (Nat.succ_mul _ _).symm
    _ ≤ total := Nat.mul_le_mul_right _ t.date.count_lt

/-- The counts that moments have. -/
theorem ofCount?_isSome : (ofCount? n).isSome ↔ 0 ≤ n ∧ n < total := by
  rw [Option.isSome_iff_exists]
  constructor
  · rintro ⟨t, ht⟩
    rw [← ofCount?_eq_some.mp ht]
    exact ⟨Int.natCast_nonneg _, Int.ofNat_lt.mpr t.count_lt⟩
  · rintro ⟨hLow, hHigh⟩
    obtain ⟨m, rfl⟩ := Int.eq_ofNat_of_zero_le hLow
    obtain ⟨date, hDate⟩ := Date.exists_count (Nat.div_lt_of_lt_mul
      ((Int.ofNat_lt.mp hHigh).trans_eq (Nat.mul_comm _ _)))
    obtain ⟨clock, hClock⟩ := Clock.exists_count (Nat.mod_lt m dayLength_pos)
    refine ⟨⟨date, clock⟩, ofCount?_eq_some.mpr ?_⟩
    rw [count, hDate, hClock, Nat.div_add_mod']

end DateTime

end Intake.Calendar
