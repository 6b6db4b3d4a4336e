import Intake.Calendar.Format
import Intake.Proofs.Number.Plain

/-! What the default formats make of days and times: the year without zeros in front, every other
part in two digits. -/

namespace Intake.Calendar

open Number

/-- A day in the default format. -/
def Date.shown (d : Date) : List Char :=
  digitsOf d.year ++ '-' :: (padded 2 d.month ++ '-' :: padded 2 d.day)

/-- A time in the default format. -/
def Clock.shown (c : Clock) : List Char :=
  padded 2 c.hour ++ ':' :: (padded 2 c.minute ++ ':' :: padded 2 c.second)

/-- A day with a time in the default format. -/
def DateTime.shown (t : DateTime) : List Char := t.date.shown ++ 'T' :: t.clock.shown

section Digits

variable {c : Char} {n width : Nat}

/-- What holds of ten characters holds of every digit. -/
theorem forall_isDigit {P : Char → Prop} (h : ∀ n ∈ List.range' 48 10, P (Char.ofNat n))
    (hc : c.isDigit) : P c := by
  simp only [Char.isDigit, Bool.and_eq_true, decide_eq_true_eq, ge_iff_le,
    UInt32.le_iff_toNat_le] at hc
  have hRange : c.toNat ∈ List.range' 48 10 :=
    List.mem_range'_1.mpr ⟨hc.1, Nat.lt_succ_of_le hc.2⟩
  simpa [Char.ofNat_toNat] using h _ hRange

theorem isDigit_of_mem_digitsOf (h : c ∈ digitsOf n) : c.isDigit :=
  Nat.isDigit_of_mem_toDigits (by decide) (by decide) h

theorem isDigit_of_mem_padded (h : c ∈ padded width n) : c.isDigit := by
  rcases List.mem_append.mp h with hZero | hDigit
  · rw [List.eq_of_mem_replicate hZero]
    rfl
  · exact isDigit_of_mem_digitsOf hDigit

theorem padded_one (n : Nat) : padded 1 n = digitsOf n := by
  have hSome : 0 < (digitsOf n).length := Nat.length_toDigits_pos
  rw [padded, Nat.sub_eq_zero_of_le hSome]
  rfl

theorem digitsOf_ne_nil (n : Nat) : digitsOf n ≠ [] := Nat.toDigits_ne_nil

theorem padded_ne_nil (width n : Nat) : padded width n ≠ [] :=
  List.append_ne_nil_of_right_ne_nil _ (digitsOf_ne_nil n)

theorem length_padded (hPos : 0 < width) (h : n < 10 ^ width) : (padded width n).length = width := by
  have hMost : (digitsOf n).length ≤ width := (Nat.length_toDigits_le_iff (by decide) hPos).mpr h
  simp only [padded, List.length_append, List.length_replicate]
  omega

theorem length_padded_two (h : n < 100) : (padded 2 n).length = 2 := length_padded (by decide) h

/-- The digits of a number denote it, with zeros in front or without. -/
theorem digitsValue?_padded (width n : Nat) : digitsValue? (padded width n) = some n := by
  rw [digitsValue?_of_digits fun c hc => isDecimalDigit_of_isDigit (isDigit_of_mem_padded hc),
    padded, List.map_append, List.map_replicate, show digit '0' = 0 from rfl, ofDigits_zeros,
    ofDigits_digitsOf]

theorem digitsValue?_digitsOf (n : Nat) : digitsValue? (digitsOf n) = some n := by
  rw [← padded_one, digitsValue?_padded]

end Digits

namespace Format

theorem numberText_plain (digits value : Nat) :
    numberText {} digits value false = padded digits value := by
  simp [numberText, fill, padded]

/-- A format without null characters and fractions whose directives are written in the room that they
have. -/
theorem format_eq {t : DateTime} {format : String} {text : List Char} {limit : Nat}
    (hFormat : withFractions t.clock.microsecond (visible format) = format.toList)
    (hLimit : room format.toList.length = limit)
    (hText : expand t limit (format.toList.length + 1) format.toList = text)
    (hRoom : text.length < limit) : t.format format = String.ofList text := by
  rw [DateTime.format, written, hFormat, hLimit, hText, if_pos hRoom]

variable (t : DateTime)

theorem expand_date :
    expand t 2048 ("%Y-%m-%d".toList.length + 1) "%Y-%m-%d".toList = t.date.shown := by
  have hExpand : expand t 2048 ("%Y-%m-%d".toList.length + 1) "%Y-%m-%d".toList =
      numberText {} 1 t.date.year false ++ '-' :: (numberText {} 2 t.date.month false ++
        '-' :: (numberText {} 2 t.date.day false ++ [])) := rfl
  rw [hExpand, numberText_plain, numberText_plain, numberText_plain, padded_one, List.append_nil]
  rfl

theorem expand_clock :
    expand t 2048 ("%H:%M:%S".toList.length + 1) "%H:%M:%S".toList = t.clock.shown := by
  have hExpand : expand t 2048 ("%H:%M:%S".toList.length + 1) "%H:%M:%S".toList =
      numberText {} 2 t.clock.hour false ++ ':' :: (numberText {} 2 t.clock.minute false ++
        ':' :: (numberText {} 2 t.clock.second false ++ [])) := rfl
  rw [hExpand, numberText_plain, numberText_plain, numberText_plain, List.append_nil]
  rfl

theorem expand_dateTime :
    expand t 8192 ("%Y-%m-%dT%H:%M:%S".toList.length + 1) "%Y-%m-%dT%H:%M:%S".toList =
      t.shown := by
  have hExpand : expand t 8192 ("%Y-%m-%dT%H:%M:%S".toList.length + 1)
      "%Y-%m-%dT%H:%M:%S".toList =
      numberText {} 1 t.date.year false ++ '-' :: (numberText {} 2 t.date.month false ++
        '-' :: (numberText {} 2 t.date.day false ++ 'T' :: (numberText {} 2 t.clock.hour false ++
          ':' :: (numberText {} 2 t.clock.minute false ++
            ':' :: (numberText {} 2 t.clock.second false ++ []))))) := rfl
  rw [hExpand]
  simp only [numberText_plain, padded_one, DateTime.shown, Date.shown, Clock.shown,
    List.append_nil, List.append_assoc, List.cons_append]

end Format

section Parts

variable (d : Date) (c : Clock)

theorem Date.month_lt : d.month < 100 := by
  have hValid := d.valid
  omega

theorem Date.day_le : d.day ≤ 31 := by
  have hMonth : daysInMonth d.year d.month ≤ 31 := by
    unfold daysInMonth
    split <;> (try split) <;> decide
  exact d.valid.2.2.2.trans hMonth

theorem Date.day_lt : d.day < 100 := d.day_le.trans_lt (by decide)

theorem Date.length_year : (digitsOf d.year).length ≤ 4 :=
  (Nat.length_toDigits_le_iff (by decide) (by decide)).mpr (Nat.lt_succ_of_le d.valid.1.2)

theorem Date.length_shown : d.shown.length ≤ 10 := by
  have hYear := d.length_year
  simp only [shown, List.length_append, List.length_cons, length_padded_two d.month_lt,
    length_padded_two d.day_lt]
  omega

theorem Clock.length_shown : c.shown.length = 8 := by
  obtain ⟨hHour, hMinute, hSecond, -⟩ := c.valid
  simp only [shown, List.length_append, List.length_cons,
    length_padded_two (show c.hour < 100 by omega), length_padded_two (show c.minute < 100 by omega),
    length_padded_two (show c.second < 100 by omega)]

end Parts

section Formats

variable (t : DateTime) (c : Clock)

theorem format_date : t.format "%Y-%m-%d" = String.ofList t.date.shown := by
  have hLength := t.date.length_shown
  exact Format.format_eq rfl (by decide) (Format.expand_date t) (by omega)

theorem format_dateTime : t.format "%Y-%m-%dT%H:%M:%S" = String.ofList t.shown := by
  have hLength : t.shown.length ≤ 19 := by
    have hDate := t.date.length_shown
    have hClock := t.clock.length_shown
    simp only [DateTime.shown, List.length_append, List.length_cons]
    omega
  exact Format.format_eq rfl (by decide) (Format.expand_dateTime t) (by omega)

theorem format_clock : c.format "%H:%M:%S" = String.ofList c.shown := by
  have hLength := c.length_shown
  exact Format.format_eq rfl (by decide) (Format.expand_clock _) (by show c.shown.length < _; omega)

end Formats

end Intake.Calendar
