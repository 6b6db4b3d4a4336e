import Intake.Proofs.Calendar.Counting
import Intake.Proofs.Calendar.Distinct
import Intake.Proofs.Calendar.Faults
import Intake.Proofs.Calendar.Layouts
import Intake.Proofs.Calendar.ReadBack

/-! Moments that are written with their distance from universal time, in the international notation:
year, month and day in fixed widths with dashes between them, hour, minute and second with colons, and
the microseconds behind a point unless there are none. The notation is read back part by part, and what
is read is the moment in universal time if the years 1 to 9999 hold it, so that it depends on the
instant alone; otherwise reading stops at a fault. -/

namespace Intake.Calendar

open Number

/-- A distance from universal time in whole minutes, less than a day. -/
structure Offset where
  minutes : Int
  valid : minutes.natAbs < 1440
  deriving DecidableEq

/-- A day in the international notation. -/
def Date.isoText (d : Date) : List Char :=
  padded 4 d.year ++ '-' :: (padded 2 d.month ++ '-' :: padded 2 d.day)

/-- The microseconds of a time in the international notation. -/
def Clock.isoFraction (c : Clock) : List Char :=
  if c.microsecond = 0 then [] else '.' :: padded 6 c.microsecond

/-- A time in the international notation. -/
def Clock.isoText (c : Clock) : List Char :=
  padded 2 c.hour ++ ':' :: (padded 2 c.minute ++ ':' :: (padded 2 c.second ++ c.isoFraction))

namespace Offset

/-- The microseconds of a distance. -/
def count (o : Offset) : Int := o.minutes * 60000000

/-- The sign in front of a distance. -/
def sign (o : Offset) : Char := if o.minutes < 0 then '-' else '+'

/-- A distance in the international notation. -/
def isoText (o : Offset) : List Char :=
  o.sign :: (padded 2 (o.minutes.natAbs / 60) ++ ':' :: padded 2 (o.minutes.natAbs % 60))

theorem sign_cases (o : Offset) :
    o.sign = '-' ∧ o.minutes < 0 ∨ o.sign = '+' ∧ 0 ≤ o.minutes := by
  unfold sign
  split
  · next hNegative => exact .inl ⟨rfl, hNegative⟩
  · next hNot => exact .inr ⟨rfl, Int.not_lt.mp hNot⟩

end Offset

theorem Date.toList_iso (d : Date) : d.iso.toList = d.isoText := by
  simp [iso, isoText]

theorem Clock.toList_iso (c : Clock) : c.iso.toList = c.isoText := by
  simp [iso, isoText, isoFraction]

theorem Offset.toList_offsetText (o : Offset) : (offsetText o.count).toList = o.isoText := by
  have hSign : o.count < 0 ↔ o.minutes < 0 := by
    unfold count
    omega
  have hCount : o.count.natAbs = o.minutes.natAbs * 60 * 1000000 := by
    rw [count, Int.natAbs_mul, Nat.mul_assoc]
    rfl
  have hWhole : o.minutes.natAbs * 60 * 1000000 % 60000000 = 0 := by omega
  have hSeconds : o.minutes.natAbs * 60 * 1000000 / 1000000 = o.minutes.natAbs * 60 :=
    Nat.mul_div_cancel _ (by decide)
  have hHours : o.minutes.natAbs * 60 / 3600 = o.minutes.natAbs / 60 := by omega
  simp [offsetText, isoText, sign, hSign, hCount, hWhole, hSeconds, hHours]

section Places

variable {width n : Nat}

/-- Digits are read as the number that they denote. -/
theorem count?_of_digits {s : List Char} (hSome : s ≠ []) (hDigits : ∀ c ∈ s, c.isDigit)
    (hFew : s.length ≤ countDigitLimit) : count? s = (digitsValue? s).map Int.ofNat := by
  have hSpacing {c : Char} (hc : c.isDigit) : isSpacing c = false := by
    rw [isSpacing, isBlank_of_isDigit hc, Bool.false_and]
  have hStart : s.dropWhile isSpacing = s :=
    Text.dropWhile_eq_self fun c hc => hSpacing (hDigits c (List.mem_of_head? hc))
  have hEnd : Text.dropEnd isSpacing s = s := by
    have hKept := Text.dropEnd_append (p := isSpacing) (s := s) (t := []) fun c hc =>
      hSpacing (hDigits c (List.mem_of_getLast? hc))
    simpa [Text.dropEnd] using hKept
  have hSigned : signed s = (false, s) := by
    refine signed_text .none fun c hc => ?_
    have hDigit := hDigits c (List.mem_of_head? hc)
    constructor <;> rintro rfl <;> exact absurd hDigit (by decide)
  have hPieces : Text.pieces '_' s = [s] := by
    have hNone : '_' ∉ s := fun hMem => absurd (hDigits _ hMem) (by decide)
    simpa using Text.pieces_append_of_not_mem (t := []) hNone rfl
  have hEmpty : s.isEmpty = false := by simpa using hSome
  have hFits : ¬countDigitLimit < s.length := Nat.not_lt.mpr hFew
  unfold count?
  rw [hStart, hEnd, hSigned]
  simp only [hPieces, List.any_cons, List.any_nil, hEmpty, List.flatten_cons, List.flatten_nil,
    List.append_nil, hFits, Bool.or_self, decide_false, Bool.false_eq_true, if_false]
  cases digitsValue? s <;> rfl

namespace Iso

/-- A number that fills its places is read from them. -/
theorem number?_padded (hPos : 0 < width) (hFew : width ≤ countDigitLimit) (h : n < 10 ^ width)
    (rest : List Char) : ¬(padded width n ++ rest).length < width ∧
      number? width (padded width n ++ rest) = some (n : Int) ∧
      (padded width n ++ rest).drop width = rest := by
  have hLength := length_padded hPos h
  refine ⟨?_, ?_, List.drop_left' hLength⟩
  · rw [List.length_append]
    omega
  · rw [number?, List.take_left' hLength, count?_of_digits (padded_ne_nil width n)
      (fun c => isDigit_of_mem_padded) (hLength.trans_le hFew), digitsValue?_padded]
    rfl

/-- A number below a hundred is read from two places. -/
theorem number?_two (h : n < 100) (rest : List Char) : ¬(padded 2 n ++ rest).length < 2 ∧
    number? 2 (padded 2 n ++ rest) = some (n : Int) ∧ (padded 2 n ++ rest).drop 2 = rest :=
  number?_padded (by decide) (by decide) h rest

end Iso

end Places

namespace Iso

section Parts

theorem calendarDay?_isoText (d : Date) (rest : List Char) :
    calendarDay? (d.isoText ++ rest) = some (dayParts d, rest) := by
  have hYear : d.year < 10 ^ 4 := Nat.lt_succ_of_le d.valid.1.2
  obtain ⟨hFour, hReadYear, hDropYear⟩ := number?_padded (by decide) (by decide) hYear
    ('-' :: (padded 2 d.month ++ '-' :: (padded 2 d.day ++ rest)))
  obtain ⟨hTwo, hReadMonth, hDropMonth⟩ :=
    number?_two d.month_lt ('-' :: (padded 2 d.day ++ rest))
  obtain ⟨hTwo', hReadDay, hDropDay⟩ := number?_two d.day_lt rest
  have hText : d.isoText ++ rest =
      padded 4 d.year ++ '-' :: (padded 2 d.month ++ '-' :: (padded 2 d.day ++ rest)) := by
    simp [Date.isoText]
  rw [calendarDay?, hText, if_neg hFour, hReadYear, hDropYear]
  simp only [decide_true, if_true, if_neg hTwo, hReadMonth, hDropMonth, bne_self_eq_false,
    Bool.and_false, Bool.false_eq_true, if_false, if_neg hTwo', hReadDay, hDropDay, Option.map_some,
    dayParts]

variable {n left : Nat} {p : TimeParts} {rest : List Char} {colons : Bool}

theorem exists_digit (h : n < 100) (rest : List Char) :
    ∃ c more, padded 2 n ++ rest = c :: more ∧ c.isDigit := by
  obtain ⟨c, d, hText⟩ := List.length_eq_two.mp (length_padded_two h)
  exact ⟨c, d :: rest, by rw [hText]; rfl, isDigit_of_mem_padded (hText ▸ List.mem_cons_self)⟩

/-- What opens a distance from universal time, or goes between hours and minutes, is no digit. -/
theorem ne_of_isDigit {c : Char} (h : c.isDigit) :
    c ≠ '-' ∧ c ≠ '+' ∧ c ≠ 'Z' ∧ c ≠ 'z' ∧ c ≠ ':' := by
  refine ⟨?_, ?_, ?_, ?_, ?_⟩ <;> rintro rfl <;> exact absurd h (by decide)

theorem timeFrom_hour (h : n < 100) : timeFrom false p 0 (left + 1) (padded 2 n ++ rest) =
    timeFrom false { p with hour := n } 1 left rest := by
  obtain ⟨hTwo, hRead, hDrop⟩ := number?_two h rest
  obtain ⟨c, more, hText, hDigit⟩ := exists_digit h rest
  obtain ⟨hMinus, hPlus, hCapital, hSmall, -⟩ := ne_of_isDigit hDigit
  rw [hText] at hTwo hRead hDrop ⊢
  rw [timeFrom]
  simp only [if_neg hTwo, hRead, hDrop]
  simp [hMinus, hPlus, hCapital, hSmall]

theorem timeFrom_minute (h : n < 100) :
    timeFrom colons p 1 (left + 1) (':' :: (padded 2 n ++ rest)) =
      timeFrom true { p with minute := n } 2 left rest := by
  obtain ⟨hTwo, hRead, hDrop⟩ := number?_two h rest
  rw [timeFrom]
  simp only [if_neg hTwo, hRead, hDrop]
  simp

theorem timeFrom_second (h : n < 100) :
    timeFrom true p 2 (left + 1) (':' :: (padded 2 n ++ rest)) =
      timeFrom true { p with second := n } 3 left rest := by
  obtain ⟨hTwo, hRead, hDrop⟩ := number?_two h rest
  rw [timeFrom]
  simp only [if_neg hTwo, hRead, hDrop]
  simp

theorem fraction?_padded (h : n < 1000000) (hStop : ∀ c, rest.head? = some c → c.isDigit = false) :
    fraction? ('.' :: (padded 6 n ++ rest)) = some (n, rest) := by
  have hDigits : ∀ c ∈ padded 6 n, c.isDigit = true := fun c => isDigit_of_mem_padded
  have hLength := length_padded (by decide : 0 < 6) h
  have hTake := Text.takeWhile_append_of_stop hDigits hStop
  have hDrop := Text.dropWhile_append_of_stop hDigits hStop
  have hSome : (padded 6 n).isEmpty = false := List.isEmpty_eq_false_iff.mpr (padded_ne_nil 6 n)
  have hSix : (padded 6 n).take 6 = padded 6 n := List.take_of_length_le (Nat.le_of_eq hLength)
  simp [fraction?, hTake, hDrop, hSome, hSix, hLength, digitsValue?_padded]

theorem timeFrom_fraction (h : n < 1000000)
    (hStop : ∀ c, rest.head? = some c → c.isDigit = false) :
    timeFrom true p 3 (left + 1) ('.' :: (padded 6 n ++ rest)) =
      timeFrom true { p with microsecond := n } 4 left rest := by
  rw [timeFrom]
  simp [fraction?_padded h hStop]

theorem offsetMinutes?_isoText (o : Offset) : offsetMinutes? o.isoText = some o.minutes := by
  have hValid := o.valid
  have hSum : o.minutes.natAbs / 60 * 60 + o.minutes.natAbs % 60 = o.minutes.natAbs :=
    Nat.div_add_mod' _ _
  have hHour : o.minutes.natAbs / 60 < 24 := by omega
  have hMinute : o.minutes.natAbs % 60 < 60 := Nat.mod_lt _ (by decide)
  unfold Offset.isoText
  generalize o.minutes.natAbs / 60 = hours, o.minutes.natAbs % 60 = minutes at hSum hHour hMinute ⊢
  -- The reader tells hours alone, hours with minutes and a colon between them apart by the number of
  -- characters, so the digits are needed one by one.
  obtain ⟨a, b, hHours⟩ := List.length_eq_two.mp (length_padded_two (hHour.trans (by decide)))
  obtain ⟨c, d, hMinutes⟩ := List.length_eq_two.mp (length_padded_two (hMinute.trans (by decide)))
  obtain ⟨-, hReadHour, -⟩ := number?_two (hHour.trans (by decide)) [':', c, d]
  obtain ⟨-, hReadMinute, -⟩ := number?_two (hMinute.trans (by decide)) []
  rw [hHours] at hReadHour
  rw [hMinutes] at hReadMinute
  have hCount : count? [c, d] = some (minutes : Int) := hReadMinute
  have hHourBound : ¬23 < (hours : Int) := by omega
  have hMinuteBound : ¬59 < (minutes : Int) := by omega
  simp only [List.cons_append, List.nil_append] at hReadHour
  rw [hHours, hMinutes]
  rcases o.sign_cases with ⟨hSign, hRange⟩ | ⟨hSign, hRange⟩
  · simp [offsetMinutes?, hSign, hReadHour, hCount, hHourBound, hMinuteBound]
    omega
  · simp [offsetMinutes?, hSign, hReadHour, hCount, hHourBound, hMinuteBound]
    omega

theorem timeFrom_offset (o : Offset) {place : Nat} :
    timeFrom colons p place (left + 1) o.isoText = some { p with offset := some o.minutes } := by
  have hMinutes := offsetMinutes?_isoText o
  rw [Offset.isoText] at hMinutes ⊢
  rw [timeFrom, hMinutes]
  rcases o.sign_cases with ⟨hSign, -⟩ | ⟨hSign, -⟩ <;> simp [hSign]

/-- The parts of a time with a distance from universal time behind it. -/
theorem time?_isoText (c : Clock) (o : Offset) : time? (c.isoText ++ o.isoText) =
    some ⟨c.hour, c.minute, c.second, c.microsecond, some o.minutes⟩ := by
  obtain ⟨hHour, hMinute, hSecond, hMicrosecond⟩ := c.valid
  have hStop : ∀ a, o.isoText.head? = some a → a.isDigit = false := by
    intro a ha
    obtain rfl : o.sign = a := Option.some.inj ha
    rcases o.sign_cases with ⟨hSign, -⟩ | ⟨hSign, -⟩ <;> rw [hSign] <;> rfl
  have hRest : timeFrom true ⟨c.hour, c.minute, c.second, 0, none⟩ 3 3 (c.isoFraction ++ o.isoText) =
      some ⟨c.hour, c.minute, c.second, c.microsecond, some o.minutes⟩ := by
    unfold Clock.isoFraction
    split
    · next hNone => rw [List.nil_append, timeFrom_offset, hNone]
    · rw [List.cons_append, timeFrom_fraction hMicrosecond hStop, timeFrom_offset]
  have hText : c.isoText ++ o.isoText = padded 2 c.hour ++ (':' :: (padded 2 c.minute ++
      (':' :: (padded 2 c.second ++ (c.isoFraction ++ o.isoText))))) := by
    simp [Clock.isoText]
  have hLength : ¬(c.isoText ++ o.isoText).length < 2 := by
    rw [hText]
    exact (number?_two (hHour.trans (by decide)) _).1
  have hFrom : timeFrom false {} 0 6 (c.isoText ++ o.isoText) =
      some ⟨c.hour, c.minute, c.second, c.microsecond, some o.minutes⟩ := by
    rw [hText, timeFrom_hour (hHour.trans (by decide)), timeFrom_minute (hMinute.trans (by decide)),
      timeFrom_second (hSecond.trans (by decide)), hRest]
  have hNotEnd : ((c.hour : Int) != 24) = true := by
    rw [bne_iff_ne]
    omega
  rw [time?, if_neg hLength, hFrom, Option.filter_some]
  simp [hNotEnd]

theorem natural?_natCast (n : Nat) : natural? n = some n := by
  simp [natural?]

theorem moment?_parts (t : DateTime) (offset : Option Int) :
    moment? (dayParts t.date) ⟨t.clock.hour, t.clock.minute, t.clock.second, t.clock.microsecond,
      offset⟩ = some t := by
  simp only [moment?, dayParts, natural?_natCast, DateTime.ofParts?, Date.ofParts?_self,
    Clock.ofParts?_self]

end Parts

end Iso

/-- A moment with its distance from universal time in the international notation. -/
def isoText (t : DateTime) (o : Offset) : List Char :=
  t.date.isoText ++ 'T' :: (t.clock.isoText ++ o.isoText)

section Characters

variable {t : DateTime} {o : Offset} {c : Char}

/-- A character of the international notation is a digit or a mark between digits. -/
theorem mem_isoText (h : c ∈ isoText t o) : c.isDigit ∨ c ∈ ['-', 'T', ':', '.', '+'] := by
  have hFraction (hc : c ∈ t.clock.isoFraction) : c.isDigit ∨ c ∈ ['-', 'T', ':', '.', '+'] := by
    unfold Clock.isoFraction at hc
    split at hc
    · cases hc
    · rcases List.mem_cons.mp hc with rfl | hDigit
      · exact .inr (by decide)
      · exact .inl (isDigit_of_mem_padded hDigit)
  have hSign : o.sign ∈ ['-', 'T', ':', '.', '+'] := by
    rcases o.sign_cases with ⟨hSign, -⟩ | ⟨hSign, -⟩ <;> rw [hSign] <;> decide
  simp only [isoText, Date.isoText, Clock.isoText, Offset.isoText, List.mem_append,
    List.mem_cons] at h
  rcases h with (h | rfl | h | rfl | h) | rfl | (h | rfl | h | rfl | h | h) | rfl | h | rfl | h
  all_goals first
    | exact .inl (isDigit_of_mem_padded h)
    | exact .inr (by decide)
    | exact hFraction h
    | exact .inr hSign

theorem isAscii_of_mem_isoText (h : c ∈ isoText t o) : c.val < 128 := by
  rcases mem_isoText h with hDigit | hMark
  · exact forall_isDigit (P := fun c => c.val < 128) (by decide) hDigit
  · simp only [List.mem_cons, List.not_mem_nil, or_false] at hMark
    rcases hMark with rfl | rfl | rfl | rfl | rfl <;> decide

theorem isBlank_of_mem_isoText (h : c ∈ isoText t o) : Text.isBlank c = false := by
  rcases mem_isoText h with hDigit | hMark
  · exact isBlank_of_isDigit hDigit
  · simp only [List.mem_cons, List.not_mem_nil, or_false] at hMark
    rcases hMark with rfl | rfl | rfl | rfl | rfl <;> decide

end Characters

/-- A moment with its distance from universal time is read as it was written. -/
theorem Iso.read_isoText (t : DateTime) (o : Offset) :
    Iso.read (isoText t o) = .ok (some ⟨t, some o.count⟩) := by
  have hAscii : (isoText t o).any (fun c => 128 ≤ c.val) = false := by
    simpa using fun c hc => isAscii_of_mem_isoText hc
  have hDay : day (isoText t o) =
      .ok (some (dayParts t.date, 'T' :: (t.clock.isoText ++ o.isoText))) := by
    rw [day, isoText, calendarDay?_isoText]
  have hNotEnd : ¬(t.clock.hour : Int) = 24 := by
    have hHour := t.clock.valid.1
    omega
  rw [read, hAscii, if_neg Bool.false_ne_true, hDay]
  dsimp only
  rw [time?_isoText]
  dsimp only
  rw [if_neg hNotEnd, moment?_parts, Option.map_some, Option.map_some, Offset.count]

/-! ### Stamps -/

/-- A moment with its distance from universal time. -/
structure Stamp where
  moment : DateTime
  offset : Offset
  deriving DecidableEq

namespace Stamp

/-- A moment with its distance from universal time, as it is written. -/
def text (s : Stamp) : String := s.moment.iso ++ offsetText s.offset.count

/-- The microseconds from the beginning of the count to a moment, in universal time. -/
def count (s : Stamp) : Int := s.moment.count - s.offset.count

theorem toList_text (s : Stamp) : s.text.toList = isoText s.moment s.offset := by
  have hMark : "T".toList = ['T'] := rfl
  rw [text, DateTime.iso, String.toList_append, String.toList_append, String.toList_append, hMark,
    Date.toList_iso, Clock.toList_iso, Offset.toList_offsetText, isoText, List.append_assoc,
    List.append_assoc, List.singleton_append]

end Stamp

section Layouts

open Layout

theorem marks_padded (width n : Nat) : marks (padded width n) = [] :=
  marks_eq_nil fun c hc => by
    simp [isMark, Number.isDecimalDigit_of_isDigit (isDigit_of_mem_padded hc)]

theorem marks_cons_of_mark {c : Char} {s : List Char} (h : isMark c = true) :
    marks (c :: s) = c.toUpper :: marks s := by
  simp [marks, h]

/-- A moment with its distance from universal time has seven marks, and one more in front of its
microseconds. -/
theorem length_marks_isoText (t : DateTime) (o : Offset) : 7 ≤ (marks (isoText t o)).length := by
  have hMarks : isMark '-' = true ∧ isMark 'T' = true ∧ isMark ':' = true ∧ isMark o.sign = true := by
    rcases o.sign_cases with ⟨hSign, -⟩ | ⟨hSign, -⟩ <;> rw [hSign] <;> decide
  obtain ⟨hDash, hLetter, hColon, hSign⟩ := hMarks
  simp only [isoText, Date.isoText, Clock.isoText, Offset.isoText, marks_append, marks_padded,
    marks_cons_of_mark hDash, marks_cons_of_mark hLetter, marks_cons_of_mark hColon,
    marks_cons_of_mark hSign, List.length_append, List.length_cons, List.length_nil]
  omega

theorem dateTimeLayouts_few : ∀ l ∈ dateTimeLayouts, l.items.all Item.isPlain ∧
    (itemMarks l.items).length ≤ 6 := by
  decide +kernel

/-- No layout has so many marks. -/
theorem readLayouts?_isoText (t : DateTime) (o : Offset) :
    readLayouts? dateTimeLayouts (isoText t o) = none := by
  refine List.findSome?_eq_none_iff.mpr fun l hl => ?_
  obtain ⟨hPlain, hFew⟩ := dateTimeLayouts_few l hl
  rw [read?, Option.bind_eq_none_iff]
  intro found hFound
  have hMany := length_marks_isoText t o
  rw [(fits_of_fields? hFound).marks_eq hPlain] at hMany
  omega

end Layouts

theorem Offset.near (o : Offset) : ¬DateTime.dayLength ≤ o.count.natAbs := by
  have hValid := o.valid
  have hCount : o.count.natAbs = o.minutes.natAbs * 60000000 := by
    rw [count, Int.natAbs_mul]
    rfl
  rw [hCount, DateTime.dayLength]
  omega

/-- A moment with its distance from universal time is read as the moment in universal time. -/
theorem readDateTime_stamp (now : Date) (s : Stamp) :
    readDateTime now s.text =
      match DateTime.ofCount? s.count with
      | some t => .ok (some t)
      | none => .error .outOfRange := by
  have hText : s.text = String.ofList (isoText s.moment s.offset) := by
    rw [← s.toList_text, String.ofList_toList]
  have hFree : readFree now (isoText s.moment s.offset) =
      (Reading.universal ⟨s.moment, some s.offset.count⟩).map some :=
    (FreeReading.international (Iso.read_isoText s.moment s.offset)).readFree_eq
  have hUniversal : Reading.universal ⟨s.moment, some s.offset.count⟩ =
      match DateTime.ofCount? s.count with
      | some t => .ok t
      | none => .error .outOfRange := by
    rw [Reading.universal]
    dsimp only
    rw [if_neg s.offset.near, DateTime.add?, ← Int.sub_eq_add_neg]
    rfl
  rw [hText, readDateTime_of_blankless (by simp [isoText]) fun _ => isBlank_of_mem_isoText,
    readLayouts?_isoText]
  dsimp only
  rw [hFree, hUniversal]
  cases DateTime.ofCount? s.count <;> rfl

/-- What reading a moment comes to. It stops at a fault exactly where no layout reads the text and the
moment cannot be told in universal time. -/
structure MomentAccount (now : Date) : Prop where
  dateTime_fault {s : String} {fault : Fault} : readDateTime now s = .error fault ↔
    s.isEmpty = false ∧ readLayouts? dateTimeLayouts (Text.trimmed s.toList) = none ∧
      Untellable now (Text.trimmed s.toList) fault
  clock_fault {s : String} {fault : Fault} : readClock now s = .error fault ↔
    s.isEmpty = false ∧ readLayouts? clockLayouts (Text.trimmed s.toList) = none ∧
      readDateTime now (Text.trim s) = .error fault
  kind {s : String} {fault : Fault} : readDateTime now s = .error fault →
    fault ∈ [.outOfRange, .offsetTooLarge, .indivisible]
  stamp_read {s : Stamp} {t : DateTime} :
    readDateTime now s.text = .ok (some t) ↔ (t.count : Int) = s.count
  stamp_fault {s : Stamp} : readDateTime now s.text = .error .outOfRange ↔
    s.count < 0 ∨ DateTime.total ≤ s.count
  stamp_found {s : Stamp} : readDateTime now s.text ≠ .ok none
  stamp_congr {s s' : Stamp} : s.count = s'.count →
    readDateTime now s.text = readDateTime now s'.text

end Intake.Calendar
