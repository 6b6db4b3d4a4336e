import Intake.Calendar.Loose.Reader
import Intake.Proofs.Calendar.Layouts
import Intake.Proofs.Text.Small

/-! The loose reading of days and times in the default formats. Digits and the marks between them
are tokens of their own. The first three numbers are the day, and a year of three digits is known
for one; behind a `T` the numbers between colons are the time. -/

namespace Intake.Calendar.Loose

open Number

section Tokens

variable {s rest : List Char} {c : Char}

/-- A character that ends a run of digits. -/
structure Stops (c : Char) : Prop where
  noDigit : Text.isDigitLike c = false
  noPoint : c ≠ '.'
  noComma : c ≠ ','

/-- A character that is a token of its own. -/
structure IsMark (c : Char) : Prop extends Stops c where
  noLetter : Text.isLetter c = false
  noBlank : Text.isBlank c = false

theorem isDigitLike_of_isDigit (h : c.isDigit) : Text.isDigitLike c := by
  rw [Text.isDigitLike, isDecimalDigit_of_isDigit h, Bool.true_or]

theorem isLetter_of_isDigit (h : c.isDigit) : Text.isLetter c = false :=
  forall_isDigit (P := fun c => Text.isLetter c = false) (by decide) h

/-- A run of digits goes on as long as there are digits. -/
theorem scan_digits (token : List Char) (hDigits : ∀ c ∈ s, c.isDigit)
    (hRest : ∀ c, rest.head? = some c → Stops c) :
    scan token .digits false (s ++ rest) = ⟨token.reverse ++ s, .digits, false, rest⟩ := by
  induction s generalizing token with
  | nil =>
    cases rest with
    | nil => simp [scan]
    | cons c rest =>
      obtain ⟨hDigit, hPoint, hComma⟩ := hRest c rfl
      simp [scan, Run.next, Run.seesLetters, hDigit, hPoint, hComma]
  | cons c s ih =>
    obtain ⟨hFirst, hMore⟩ := List.forall_mem_cons.mp hDigits
    have hNext : Run.next .digits token.length (token.head? == some '.') c = some .digits := by
      rw [Run.next, if_pos (isDigitLike_of_isDigit hFirst)]
    rw [List.cons_append, scan, hNext]
    simpa [Run.seesLetters] using ih (c :: token) hMore

/-- Digits up to another character are one token. -/
theorem tokensFrom_digits (fuel : Nat) (hSome : s ≠ []) (hDigits : ∀ c ∈ s, c.isDigit)
    (hRest : ∀ c, rest.head? = some c → Stops c) :
    tokensFrom (fuel + 1) (s ++ rest) = s :: tokensFrom fuel rest := by
  obtain ⟨first, more, rfl⟩ := List.exists_cons_of_ne_nil hSome
  obtain ⟨hFirst, hMore⟩ := List.forall_mem_cons.mp hDigits
  have hScan := scan_digits [first] hMore hRest
  rw [List.cons_append, tokensFrom]
  simp only [isLetter_of_isDigit hFirst, isDigitLike_of_isDigit hFirst, Bool.false_eq_true, if_false,
    if_true, hScan]
  simp [Scanned.tokens]

theorem tokensFrom_mark (fuel : Nat) (h : IsMark c) :
    tokensFrom (fuel + 1) (c :: rest) = [c] :: tokensFrom fuel rest := by
  rw [tokensFrom]
  simp [h.noLetter, h.noDigit, h.noBlank]

/-- A `T` in front of a digit is one token. -/
theorem tokensFrom_letter (fuel : Nat) (hRest : ∀ c, rest.head? = some c → c.isDigit) :
    tokensFrom (fuel + 1) ('T' :: rest) = ['T'] :: tokensFrom fuel rest := by
  have hScan : scan ['T'] .letters false rest = ⟨['T'], .letters, rest.head?.isSome, rest⟩ := by
    cases rest with
    | nil => rfl
    | cons c rest =>
      have hDigit := hRest c rfl
      have hPoint : c ≠ '.' := by
        rintro rfl
        exact absurd hDigit (by decide)
      simp [scan, Run.next, Run.seesLetters, isLetter_of_isDigit hDigit, hPoint]
  have hLetter : Text.isLetter 'T' = true := by decide
  rw [tokensFrom]
  simp [hLetter, hScan, Scanned.tokens]

end Tokens

section Shown

variable (d : Date) (c : Clock)

/-- The tokens of a day in the default format. -/
def dateTokens : List Token :=
  [digitsOf d.year, ['-'], padded 2 d.month, ['-'], padded 2 d.day]

/-- The tokens of a time in the default format. -/
def clockTokens : List Token :=
  [padded 2 c.hour, [':'], padded 2 c.minute, [':'], padded 2 c.second]

theorem isMark_dash : IsMark '-' := by
  refine ⟨⟨?_, ?_, ?_⟩, ?_, ?_⟩ <;> decide

theorem isMark_colon : IsMark ':' := by
  refine ⟨⟨?_, ?_, ?_⟩, ?_, ?_⟩ <;> decide

theorem tokensFrom_padded {a : Char} {rest : List Char} (fuel width n : Nat) (h : Stops a) :
    tokensFrom (fuel + 1) (padded width n ++ a :: rest) =
      padded width n :: tokensFrom fuel (a :: rest) := by
  refine tokensFrom_digits fuel (padded_ne_nil width n) (fun _ => isDigit_of_mem_padded) ?_
  rintro b hb
  exact Option.some.inj hb ▸ h

theorem tokensFrom_date (fuel : Nat) {rest : List Char}
    (hRest : ∀ a, rest.head? = some a → Stops a) :
    tokensFrom (fuel + 5) (d.shown ++ rest) = dateTokens d ++ tokensFrom fuel rest := by
  have hDay := tokensFrom_digits fuel (padded_ne_nil 2 d.day) (fun _ => isDigit_of_mem_padded) hRest
  have hText : d.shown ++ rest = padded 1 d.year ++
      '-' :: (padded 2 d.month ++ '-' :: (padded 2 d.day ++ rest)) := by
    simp [Date.shown, padded_one]
  rw [hText, tokensFrom_padded _ _ _ isMark_dash.toStops, tokensFrom_mark _ isMark_dash,
    tokensFrom_padded _ _ _ isMark_dash.toStops, tokensFrom_mark _ isMark_dash, hDay, padded_one]
  rfl

theorem tokensFrom_clock (fuel : Nat) : tokensFrom (fuel + 5) c.shown = clockTokens c := by
  have hSecond : tokensFrom (fuel + 1) (padded 2 c.second ++ []) = _ :=
    tokensFrom_digits fuel (padded_ne_nil 2 c.second) (fun _ => isDigit_of_mem_padded) nofun
  rw [List.append_nil] at hSecond
  rw [Clock.shown, tokensFrom_padded _ _ _ isMark_colon.toStops, tokensFrom_mark _ isMark_colon,
    tokensFrom_padded _ _ _ isMark_colon.toStops, tokensFrom_mark _ isMark_colon, hSecond]
  cases fuel <;> rfl

theorem filter_shown {t : DateTime} {s : List Char} (h : s ⊆ t.shown) :
    s.filter (· != '\x00') = s := by
  refine List.filter_eq_self.mpr fun a ha => bne_iff_ne.mpr ?_
  rintro rfl
  rcases mem_shown (h ha) with hDigit | hMark
  · exact absurd hDigit (by decide)
  · exact absurd hMark (by decide)

theorem le_length_date : 6 ≤ d.shown.length := by
  simp only [Date.shown, List.length_append, List.length_cons, length_padded_two d.month_lt,
    length_padded_two d.day_lt]
  omega

theorem tokens_date : tokens d.shown = dateTokens d := by
  have hLength : 5 ≤ d.shown.length := Nat.le_of_succ_le (le_length_date d)
  obtain ⟨fuel, hFuel⟩ := Nat.exists_eq_add_of_le' hLength
  have hTokens : tokensFrom (fuel + 5) (d.shown ++ []) = _ := tokensFrom_date d fuel nofun
  rw [List.append_nil] at hTokens
  rw [tokens, filter_shown (t := ⟨d, default⟩) (List.subset_append_left _ _), hFuel, hTokens]
  cases fuel <;> exact List.append_nil _

theorem tokens_dateTime (t : DateTime) :
    tokens t.shown = dateTokens t.date ++ ['T'] :: clockTokens t.clock := by
  have hLength : 11 ≤ t.shown.length := by
    have hDate := le_length_date t.date
    simp only [DateTime.shown, List.length_append, List.length_cons, t.clock.length_shown]
    omega
  have hT : Stops 'T' := ⟨by decide, by decide, by decide⟩
  have hDigit : ∀ a, t.clock.shown.head? = some a → a.isDigit := by
    intro a ha
    rw [Clock.shown, List.head?_append_of_ne_nil _ (padded_ne_nil _ _)] at ha
    exact isDigit_of_mem_padded (List.mem_of_head? ha)
  obtain ⟨fuel, hFuel⟩ := Nat.exists_eq_add_of_le' hLength
  have hRest : ∀ a, ('T' :: t.clock.shown).head? = some a → Stops a :=
    fun a ha => Option.some.inj ha ▸ hT
  have hTokens := tokensFrom_date t.date (fuel + 6) hRest
  rw [tokensFrom_letter _ hDigit, tokensFrom_clock] at hTokens
  rw [tokens, filter_shown (List.Subset.refl _), hFuel]
  exact hTokens

end Shown

section Numbers

/-- What a token of digits is read as. -/
structure IsNumber (token : Token) (n : Nat) : Prop where
  number? : token.number? = some ⟨false, n, 0⟩
  whole? : token.whole? = some n
  isDigits : token.isDigits
  unit? : token.unit? = none
  month? : token.month? = none
  notFiller : token.isFiller = false

section Words

variable {token : Token} (hDigits : ∀ c ∈ token, c.isDigit)

include hDigits

/-- A token of digits is no word with another character. -/
theorem small_ne {word : String} (hWord : word.toList.all Char.isDigit = false) :
    token.small ≠ word := by
  rintro rfl
  have hSame : Text.lowered token = token := Text.loweredFrom_eq_self fun c hc =>
    forall_isDigit (P := fun c => Text.lowerForm c = [c]) (by decide) (hDigits c hc)
  rw [Token.small, String.toList_ofList, hSame, List.all_eq_true.mpr hDigits] at hWord
  cases hWord

theorem contains_small {words : List String}
    (hWords : ∀ word ∈ words, word.toList.all Char.isDigit = false) :
    words.contains token.small = false := by
  refine List.contains_eq_any_beq.trans (List.any_eq_false.mpr fun word hWord => ?_)
  simpa using small_ne hDigits (hWords word hWord)

theorem unit?_of_digits : token.unit? = none := by
  rw [Token.unit?, contains_small hDigits (by decide), contains_small hDigits (by decide),
    contains_small hDigits (by decide)]
  rfl

theorem isFiller_of_digits : token.isFiller = false := contains_small hDigits (by decide)

theorem month?_of_digits : token.month? = none := by
  have hNames : ∀ name ∈ monthNames, (Text.lower name).toList.all Char.isDigit = false ∧
      (Text.lower (shortName name)).toList.all Char.isDigit = false := by
    decide +kernel
  have hNone : (monthNames.findIdx? fun name =>
      token.small == Text.lower name || token.small == Text.lower (shortName name)) = none := by
    refine List.findIdx?_eq_none_iff.mpr fun name hName => ?_
    obtain ⟨hFull, hShort⟩ := hNames name hName
    simp [small_ne hDigits hFull, small_ne hDigits hShort]
  rw [Token.month?, if_neg (small_ne hDigits (by decide)), hNone, Option.map_none]

end Words

theorem isNumber_of_digits {token : Token} {n : Nat} (hSome : token ≠ [])
    (hDigits : ∀ c ∈ token, c.isDigit) (hValue : digitsValue? token = some n) :
    IsNumber token n where
  number? := by
    have hPoint : '.' ∉ token := fun h => absurd (hDigits _ h) (by decide)
    have hNotEmpty : (token ++ []).isEmpty = false := by simpa using hSome
    simp only [Token.number?, Text.cut_of_not_mem hPoint, Option.getD_none, hNotEmpty]
    simp [hValue]
  whole? := by
    rw [Token.whole?, List.isEmpty_eq_false_iff.mpr hSome, hValue]
    rfl
  isDigits := by
    rw [Token.isDigits, List.isEmpty_eq_false_iff.mpr hSome]
    exact List.all_eq_true.mpr fun c hc => isDigitLike_of_isDigit (hDigits c hc)
  unit? := unit?_of_digits hDigits
  month? := month?_of_digits hDigits
  notFiller := isFiller_of_digits hDigits

theorem isNumber_digitsOf (n : Nat) : IsNumber (digitsOf n) n :=
  isNumber_of_digits (digitsOf_ne_nil n) (fun _ => isDigit_of_mem_digitsOf)
    (digitsValue?_digitsOf n)

theorem isNumber_padded (width n : Nat) : IsNumber (padded width n) n :=
  isNumber_of_digits (padded_ne_nil width n) (fun _ => isDigit_of_mem_padded)
    (digitsValue?_padded width n)

end Numbers

/-- The numbers of a day; a long first one is the year. -/
def dayParts (y m d : Nat) (long : Bool) : DayParts :=
  { numbers := [y, m, d], yearAt := if long then some 0 else none, centuryKnown := long }

/-- The marks between the numbers of a day and a time are no units. -/
theorem unit?_marks : Token.unit? ['-'] = none ∧ Token.unit? [':'] = none ∧
    Token.unit? ['T'] = none := by
  decide +kernel

section Day

theorem addToken?_eq {p : DayParts} {t : Token} {n : Nat} (h : IsNumber t n) :
    p.addToken? t none = p.add? n (decide (2 < t.length)) none := by
  rw [DayParts.addToken?, h.whole?, h.isDigits, Bool.true_and]

theorem add?_first (n : Nat) (long : Bool) : DayParts.add? {} n long none =
    some { numbers := [n], yearAt := if long then some 0 else none, centuryKnown := long } := by
  cases long <;> rfl

theorem add?_short (p : DayParts) (n : Nat) :
    p.add? n false none = some { p with numbers := p.numbers ++ [n] } := by
  simp [DayParts.add?]

variable {ty tm td : Token} {y m d : Nat} (hYear : IsNumber ty y) (hMonth : IsNumber tm m)
  (hDay : IsNumber td d) (hMonthTwo : tm.length = 2) (hDayTwo : td.length = 2)
  (more : List Token)

include hYear hMonth hDay hMonthTwo hDayTwo

theorem separatedDay_eq :
    separatedDay (ty :: ['-'] :: tm :: ['-'] :: td :: more).toArray 0 {} ty ['-'] =
      .ok (4, { parts := dayParts y m d (decide (2 < ty.length)) }) := by
  simp [separatedDay, addToken?_eq hYear, addToken?_eq hMonth, addToken?_eq hDay, add?_first,
    hMonthTwo, hDayTwo, add?_short, hMonth.notFiller, hMonth.isDigits, hDay.month?, tokenAt, required,
    bind, Except.bind, pure, Except.pure, dayParts]

/-- Three numbers with dashes between them are a day. -/
theorem number_date (hShort : ty.length < 4) :
    number (ty :: ['-'] :: tm :: ['-'] :: td :: more).toArray 0 {} ty =
      .ok (4, { parts := dayParts y m d (decide (2 < ty.length)) }) := by
  have hUnit : unitOf (ty :: ['-'] :: tm :: ['-'] :: td :: more).toArray 0 = none := by
    simp [unitOf, unit?_marks.1]
  have hLong : (decide (ty.length = 6) ||
      (decide (6 < ty.length) && ty.findIdx? (· == '.') == some 6)) = false := by
    have hLess : ¬6 < ty.length := by omega
    have hOther : ty.length ≠ 6 := by omega
    simp [hLess, hOther]
  unfold number
  simp only [required, bind, Except.bind, hYear.number?, hLong, hUnit]
  simp [pure, Except.pure]
  rw [if_neg (by omega), separatedDay_eq hYear hMonth hDay hMonthTwo hDayTwo more]

end Day

section Time

theorem truncated_whole (n : Nat) : (Decimal.truncated ⟨false, n, 0⟩).toNat = n := by
  simp [Decimal.truncated, tenTo]

theorem minutesAndSeconds_eq {n : Nat} (h : n < 100) :
    minutesAndSeconds ⟨false, n, 0⟩ = .ok (n, none) := by
  have hDigits : (digitsOf n).length ≤ 2 :=
    (Nat.length_toDigits_le_iff (by decide) (by decide)).mpr h
  have hFew : ¬precision < (digitsOf n).length := by
    rw [precision]
    omega
  simp [minutesAndSeconds, fractionOf, Decimal.fraction?, Decimal.digitCount, hFew, bind,
    Except.bind, pure, Except.pure, truncated_whole]

theorem secondsAndMicros_eq {t : Token} {n : Nat} (hPoint : '.' ∉ t) (h : IsNumber t n) :
    secondsAndMicros t = .ok (n, 0) := by
  have hPieces : Text.pieces '.' t = [t] := by
    have hAppend := Text.pieces_append_of_not_mem (t := []) hPoint rfl
    rwa [List.append_nil] at hAppend
  simp [secondsAndMicros, hPieces, h.whole?, required, bind, Except.bind, pure, Except.pure]

/-- Behind a day and a `T`, three numbers with colons between them are a time. -/
theorem number_clock {th tm ts : Token} {hour minute second : Nat} (hHour : IsNumber th hour)
    (hMinute : IsNumber tm minute) (hSecond : IsNumber ts second) (hHourTwo : th.length = 2)
    (hPoint : '.' ∉ ts) (hLess : minute < 100) (a₀ a₁ a₂ a₃ a₄ : Token) {f : Findings} :
    number (a₀ :: a₁ :: a₂ :: a₃ :: a₄ :: ['T'] :: th :: [':'] :: tm :: [':'] :: [ts]).toArray 6 f
      th =
      .ok (10, { f with
        hour := some hour, minute := some minute, second := some second,
        microsecond := some 0 }) := by
  obtain ⟨-, hColon, hT⟩ := unit?_marks
  have hUnit : unitOf
      (a₀ :: a₁ :: a₂ :: a₃ :: a₄ :: ['T'] :: th :: [':'] :: tm :: [':'] :: [ts]).toArray 6 =
        none := by
    simp [unitOf, hColon, hT]
  unfold number
  simp [required, bind, Except.bind, pure, Except.pure, hHour.number?, hUnit, hColon, hHourTwo,
    clockTime, tokenAt, hMinute.number?, minutesAndSeconds_eq hLess,
    secondsAndMicros_eq hPoint hSecond, truncated_whole]

end Time

section Reading

variable {now fuel i last : Nat} {tokens : Array Token} {f f' : Findings} {token : Token} {n : Nat}

theorem readFrom_end (h : tokens[i]? = none) : readFrom now fuel tokens i f = .ok f := by
  cases fuel with
  | zero => rfl
  | succ fuel => rw [readFrom, h]

theorem readFrom_number (hToken : tokens[i]? = some token) (hNumber : IsNumber token n)
    (h : number tokens i f token = .ok (last, f')) :
    readFrom now (fuel + 1) tokens i f = readFrom now fuel tokens (last + 1) f' := by
  have hNumeric : token.isNumeric = true := by
    rw [Token.isNumeric, hNumber.number?]
    rfl
  rw [readFrom, hToken]
  simp only [hNumeric, if_true, h, bind, Except.bind]

/-- A `T` behind a day is passed over. -/
theorem readFrom_letter (hToken : tokens[i]? = some ['T']) (hHour : f.hour = none) :
    readFrom now (fuel + 1) tokens i f = readFrom now fuel tokens (i + 1) f := by
  obtain ⟨hNumeric, hWeekday, hMonth, hHalf, hFiller⟩ :
      Token.isNumeric ['T'] = false ∧ Token.weekday? ['T'] = none ∧ Token.month? ['T'] = none ∧
        Token.afternoon? ['T'] = none ∧ Token.isFiller ['T'] = true := by
    decide +kernel
  rw [readFrom, hToken]
  simp [hNumeric, hWeekday, hMonth, hHalf, hFiller, hHour]

variable {d : Date} {t : DateTime}

/-- What is found of a day in the default format. -/
def dateFindings (d : Date) : Findings :=
  { parts := dayParts d.year d.month d.day (decide (100 ≤ d.year)) }

/-- What is found of a time behind a day. -/
def withClock (f : Findings) (c : Clock) : Findings :=
  { f with
    hour := some c.hour, minute := some c.minute, second := some c.second, microsecond := some 0 }

theorem long_iff : decide (2 < (digitsOf d.year).length) = decide (100 ≤ d.year) := by
  have hFew : (digitsOf d.year).length ≤ 2 ↔ d.year < 10 ^ 2 :=
    Nat.length_toDigits_le_iff (by decide) (by decide)
  exact decide_eq_decide.mpr (by omega)

theorem number_dateTokens (hYear : d.year < 1000) (more : List Token) :
    number (dateTokens d ++ more).toArray 0 {} (digitsOf d.year) = .ok (4, dateFindings d) := by
  have hShort : (digitsOf d.year).length < 4 :=
    Nat.lt_succ_of_le ((Nat.length_toDigits_le_iff (by decide) (by decide)).mpr hYear)
  have hNumber := number_date (isNumber_digitsOf d.year) (isNumber_padded 2 d.month)
    (isNumber_padded 2 d.day) (length_padded_two d.month_lt) (length_padded_two d.day_lt) more hShort
  rw [long_iff] at hNumber
  exact hNumber

theorem readFrom_date (hYear : d.year < 1000) :
    readFrom now ((dateTokens d).length + 1) (dateTokens d).toArray 0 {} =
      .ok (dateFindings d) := by
  have hNumber := number_dateTokens hYear []
  rw [List.append_nil] at hNumber
  exact (readFrom_number rfl (isNumber_digitsOf d.year) hNumber).trans (readFrom_end rfl)

theorem readFrom_dateTime (hYear : t.date.year < 1000) :
    readFrom now ((dateTokens t.date ++ ['T'] :: clockTokens t.clock).length + 1)
      (dateTokens t.date ++ ['T'] :: clockTokens t.clock).toArray 0 {} =
      .ok (withClock (dateFindings t.date) t.clock) := by
  obtain ⟨hHour, hMinute, -, -⟩ := t.clock.valid
  have hDate := number_dateTokens hYear (['T'] :: clockTokens t.clock)
  have hPoint : '.' ∉ padded 2 t.clock.second := fun h =>
    absurd (isDigit_of_mem_padded h) (by decide)
  have hClock := number_clock (isNumber_padded 2 t.clock.hour) (isNumber_padded 2 t.clock.minute)
    (isNumber_padded 2 t.clock.second) (length_padded_two (by omega)) hPoint (by omega)
    (digitsOf t.date.year) ['-'] (padded 2 t.date.month) ['-'] (padded 2 t.date.day)
    (f := dateFindings t.date)
  calc readFrom now _ _ 0 {}
      = readFrom now 11 _ 5 (dateFindings t.date) :=
        readFrom_number rfl (isNumber_digitsOf t.date.year) hDate
    _ = readFrom now 10 _ 6 (dateFindings t.date) := readFrom_letter rfl rfl
    _ = readFrom now 9 _ 11 (withClock (dateFindings t.date) t.clock) :=
        readFrom_number rfl (isNumber_padded 2 t.clock.hour) hClock
    _ = .ok (withClock (dateFindings t.date) t.clock) := readFrom_end rfl

end Reading

section Resolved

variable {now : Date} {d : Date} {s : List Char} {f : Findings}

/-- What the loose reading makes of findings without a weekday and a zone whose numbers are three. -/
theorem read_of_findings {list : List Token} {r : DayParts.Resolved} (hTokens : tokens s = list)
    (hRead : readFrom now.year (list.length + 1) list.toArray 0 {} = .ok f)
    (hResolve : f.parts.resolve? = some r) (hFound : (r == {}) = false) (hZone : f.zone = none)
    (hOffset : f.offset = none) :
    read now s = .ok ((build now f r).map fun t => ⟨t, none⟩) := by
  have hEmpty : f.isEmpty r = false := by rw [Findings.isEmpty, hFound]; rfl
  have hUniversal : f.universalOffset = none := by rw [Findings.universalOffset, hZone, hOffset]
  unfold read
  simp only [hTokens, hRead, hResolve, hEmpty, hUniversal]
  cases build now f r <;> rfl

/-- A year of three digits is known for one. -/
theorem resolve?_long (y m d : Nat) :
    (dayParts y m d true).resolve? = some ⟨some y, some m, some d⟩ := by
  simp [dayParts, DayParts.resolve?, DayParts.ofThree]

/-- Otherwise a year is found among the numbers as well, but it has at most two digits. -/
theorem resolve?_short {y m d : Nat} (hy : y < 100) (hd : d < 100) :
    ∃ r year, (dayParts y m d false).resolve? = some r ∧ r.year = some year ∧ year < 100 := by
  have hResolve : (dayParts y m d false).resolve? = some (DayParts.ofThree none none y m d) := by
    simp [dayParts, DayParts.resolve?]
  refine ⟨_, if 31 < y then y else d, hResolve, ?_, by split <;> omega⟩
  unfold DayParts.ofThree
  by_cases hLarge : 31 < y
  · simp [hLarge]
  · by_cases hMiddle : 12 < y <;> simp [hLarge, hMiddle]

theorem nearestYear_known (now year : Nat) : nearestYear now year true = year := by
  simp [nearestYear]

/-- Seen from the year 150 or a later one, two digits never mean a year that has no more. -/
theorem le_nearestYear {now year : Nat} (hNow : 150 ≤ now) (hYear : year < 100) :
    100 ≤ nearestYear now year false := by
  have hShort : (decide (year < 100) && !false) = true := by simp [hYear]
  rw [nearestYear, if_pos hShort]
  dsimp only
  split
  · omega
  · split <;> omega

theorem build_long (now : Date) {c : Clock}
    (hFindings : f.parts = dayParts d.year d.month d.day true)
    (hWeekday : f.weekday = none) (hHour : f.hour.getD 0 = c.hour)
    (hMinute : f.minute.getD 0 = c.minute) (hSecond : f.second.getD 0 = c.second)
    (hMicrosecond : f.microsecond.getD 0 = 0) :
    build now f ⟨some d.year, some d.month, some d.day⟩ = some ⟨d, c.wholeSeconds⟩ := by
  simp [build, hFindings, dayParts, nearestYear_known, hWeekday, hHour, hMinute, hSecond,
    hMicrosecond, DateTime.ofParts?, Date.ofParts?_self, Layout.ofParts?_clock]

theorem year_of_ofParts? {year month day hour minute second micros : Nat} {t : DateTime}
    (h : DateTime.ofParts? year month day hour minute second micros = some t) :
    t.date.year = year := by
  unfold DateTime.ofParts? at h
  split at h
  · next date clock hDate _ =>
    cases h
    unfold Date.ofParts? at hDate
    split at hDate <;> cases hDate
    rfl
  · cases h

theorem build_short {r : DayParts.Resolved} {year : Nat} {t : DateTime}
    (hKnown : f.parts.centuryKnown = false) (hWeekday : f.weekday = none)
    (hResolved : r.year = some year) (hShort : year < 100) (hNow : 150 ≤ now.year)
    (h : build now f r = some t) : 100 ≤ t.date.year := by
  unfold build at h
  rw [hResolved, hKnown, hWeekday] at h
  dsimp only [Option.map_some, Option.getD_some] at h
  split at h
  · cases h
  · next hParts =>
    cases h
    rw [year_of_ofParts? hParts]
    exact le_nearestYear hNow hShort

end Resolved

section Read

variable {now : Date} {d : Date} {t : DateTime}

theorem read_date (hLow : 100 ≤ d.year) (hHigh : d.year < 1000) :
    read now d.shown = .ok (some ⟨⟨d, Clock.midnight⟩, none⟩) := by
  have hParts : (dateFindings d).parts = dayParts d.year d.month d.day true := by
    simp [dateFindings, hLow]
  have hBuild := build_long now (c := Clock.midnight) hParts rfl rfl rfl rfl rfl
  rw [read_of_findings (tokens_date d) (readFrom_date hHigh) (hParts ▸ resolve?_long ..) rfl rfl rfl,
    hBuild]
  rfl

theorem read_dateTime (hLow : 100 ≤ t.date.year) (hHigh : t.date.year < 1000) :
    read now t.shown = .ok (some ⟨t.wholeSeconds, none⟩) := by
  have hParts : (withClock (dateFindings t.date) t.clock).parts =
      dayParts t.date.year t.date.month t.date.day true := by
    simp [withClock, dateFindings, hLow]
  have hBuild := build_long now hParts rfl rfl rfl rfl rfl
  rw [read_of_findings (tokens_dateTime t) (readFrom_dateTime hHigh) (hParts ▸ resolve?_long ..) rfl
    rfl rfl, hBuild]
  rfl

/-- A year of one or two digits is not read as such. -/
theorem read_early {s : List Char} {list : List Token} {f : Findings} (hTokens : tokens s = list)
    (hRead : readFrom now.year (list.length + 1) list.toArray 0 {} = .ok f)
    (hParts : f.parts = dayParts d.year d.month d.day false) (hWeekday : f.weekday = none)
    (hZone : f.zone = none) (hOffset : f.offset = none) (hYear : d.year < 100)
    (hNow : 150 ≤ now.year) :
    ∃ found, read now s = .ok found ∧ ∀ r ∈ found, r.offset = none ∧ 100 ≤ r.moment.date.year := by
  obtain ⟨r, year, hResolve, hResolved, hShort⟩ := resolve?_short (m := d.month) hYear d.day_lt
  rw [← hParts] at hResolve
  have hFound : (r == {}) = false := by
    refine beq_eq_false_iff_ne.mpr ?_
    rintro rfl
    cases hResolved
  refine ⟨_, read_of_findings hTokens hRead hResolve hFound hZone hOffset, ?_⟩
  intro reading hReading
  obtain ⟨t, hBuild, rfl⟩ := Option.map_eq_some_iff.mp hReading
  exact ⟨rfl, build_short (congrArg _ hParts) hWeekday hResolved hShort hNow hBuild⟩

end Read

end Intake.Calendar.Loose
