import Intake.Number.Reader
import Intake.Proofs.Text.Parts
import Mathlib.Tactic.FieldSimp
import Mathlib.Tactic.Ring

/-! The grammar of amounts. An amount is read exactly if its text, the blanks at both ends left
aside, is a numeral: a sign or none, and decimal digits with at most one separator anywhere among
them. What is read is the number that the numeral denotes, with all of its digits. -/

namespace Intake

namespace Text

theorem isDecimalDigit_iff {c : Char} : isDecimalDigit c ↔ ∃ n, digitValue? c = some n :=
  Option.isSome_iff_exists

theorem ne_of_isDecimalDigit {c d : Char} (h : isDecimalDigit c) (hd : isDecimalDigit d = false) :
    c ≠ d := by
  rintro rfl
  rw [h] at hd
  cases hd

theorem isBlank_of_isDecimalDigit {c : Char} (h : isDecimalDigit c) : isBlank c = false :=
  isBlank_of_class (p := isDecimalDigit) (by decide +kernel) h

end Text

namespace Number

/-- What may stand in front of the digits of a numeral. -/
inductive Sign where
  | none | plus | minus
  deriving DecidableEq, Repr

/-- The characters of a sign. -/
def Sign.text : Sign → List Char
  | none => []
  | plus => ['+']
  | minus => ['-']

/-- Whether a sign turns the number behind it into its opposite. -/
def Sign.negates : Sign → Bool
  | none | plus => false
  | minus => true

/-- What a sign multiplies the number behind it by. -/
def Sign.factor (sign : Sign) : ℚ := if sign.negates then -1 else 1

/-- What may divide the digits of a numeral. -/
inductive Separator where
  | point | comma
  deriving DecidableEq, Repr

/-- The character of a separator. -/
def Separator.char : Separator → Char
  | point => '.'
  | comma => ','

/-- The separator of a numeral and the digits behind it, if it has one. -/
abbrev Fraction := Option (Separator × List Char)

/-- The digits behind the separator. -/
def Fraction.digits (f : Fraction) : List Char := (f.map Prod.snd).getD []

/-- The separator and the digits behind it as they are written. -/
def Fraction.text : Fraction → List Char
  | none => []
  | some (separator, digits) => separator.char :: digits

/-- A number as it is written: a sign, decimal digits of any script, at most one separator before,
between or behind them, and one digit at least. -/
structure Numeral where
  sign : Sign
  whole : List Char
  fraction : Fraction
  isDecimalDigit : ∀ c ∈ whole ++ fraction.digits, Text.isDecimalDigit c
  digits_ne_nil : whole ++ fraction.digits ≠ []

/-- The value of a decimal digit. -/
def digit (c : Char) : Nat := (Text.digitValue? c).getD 0

/-- The number that digits denote in front of a separator: each digit counts ten times as much as
the next one, and the last one counts itself. -/
def wholeValue : List Char → ℚ
  | [] => 0
  | c :: rest => digit c * 10 ^ rest.length + wholeValue rest

/-- The number that digits denote behind a separator: each digit counts a tenth of what it would
count one place earlier. -/
def fractionValue : List Char → ℚ
  | [] => 0
  | c :: rest => (digit c + fractionValue rest) / 10

/-- The value of a decimal. -/
def Decimal.value (d : Decimal) : ℚ :=
  (if d.negative then -1 else 1) * d.coefficient * 10 ^ d.exponent

namespace Numeral

/-- All digits of a numeral, in order. -/
def digits (n : Numeral) : List Char := n.whole ++ n.fraction.digits

/-- The characters of a numeral. -/
def text (n : Numeral) : List Char := n.sign.text ++ (n.whole ++ n.fraction.text)

/-- The number that a numeral denotes. -/
def value (n : Numeral) : ℚ :=
  n.sign.factor * (wholeValue n.whole + fractionValue n.fraction.digits)

/-- The decimal that a numeral writes down. -/
def decimal (n : Numeral) : Decimal :=
  ⟨n.sign.negates, ofDigits (n.digits.map digit), -(n.fraction.digits.length : Int)⟩

end Numeral

section Digits

variable {cs : List Char}

theorem foldl_digits (n : Nat) (ds : List Nat) :
    ds.foldl (fun n d => 10 * n + d) n = n * 10 ^ ds.length + ofDigits ds := by
  unfold ofDigits
  induction ds generalizing n with
  | nil => simp
  | cons d ds ih =>
    rw [List.foldl_cons, List.foldl_cons, ih, ih (10 * 0 + d), List.length_cons, pow_succ]
    ring

theorem ofDigits_append (ds es : List Nat) :
    ofDigits (ds ++ es) = ofDigits ds * 10 ^ es.length + ofDigits es := by
  rw [← foldl_digits, ofDigits, List.foldl_append]
  rfl

theorem ofDigits_cons (d : Nat) (ds : List Nat) :
    ofDigits (d :: ds) = d * 10 ^ ds.length + ofDigits ds := by
  simpa [ofDigits] using ofDigits_append [d] ds

/-- Zeros in front do not change a number. -/
theorem ofDigits_zeros (k : Nat) (ds : List Nat) :
    ofDigits (List.replicate k 0 ++ ds) = ofDigits ds := by
  have hZero : ofDigits (List.replicate k 0) = 0 := by
    induction k with
    | zero => rfl
    | succ k ih => rw [List.replicate_succ, ofDigits_cons, ih, Nat.zero_mul]
  rw [ofDigits_append, hZero, Nat.zero_mul, Nat.zero_add]

theorem mapM_digitValue? (h : ∀ c ∈ cs, Text.isDecimalDigit c) :
    cs.mapM Text.digitValue? = some (cs.map digit) := by
  induction cs with
  | nil => rfl
  | cons c rest ih =>
    obtain ⟨hFirst, hRest⟩ := List.forall_mem_cons.mp h
    obtain ⟨n, hn⟩ := Text.isDecimalDigit_iff.mp hFirst
    rw [List.mapM_cons, ih hRest, hn]
    simp [digit, hn]

theorem digitsValue?_of_digits (h : ∀ c ∈ cs, Text.isDecimalDigit c) :
    digitsValue? cs = some (ofDigits (cs.map digit)) := by
  rw [digitsValue?, mapM_digitValue? h]
  rfl

theorem digitsValue?_eq_none {c : Char} (hMem : c ∈ cs) (h : Text.isDecimalDigit c = false) :
    digitsValue? cs = none := by
  have hNone : Text.digitValue? c = none := by simpa [Text.isDecimalDigit] using h
  rw [digitsValue?, Option.map_eq_none_iff]
  induction cs with
  | nil => cases hMem
  | cons d rest ih =>
    rw [List.mapM_cons]
    rcases List.mem_cons.mp hMem with rfl | hRest
    · simp [hNone]
    · simp [ih hRest]

theorem isDecimalDigit_of_digitsValue? {n : Nat} (h : digitsValue? cs = some n) :
    ∀ c ∈ cs, Text.isDecimalDigit c := by
  intro c hc
  by_contra hNot
  rw [digitsValue?_eq_none hc (by simpa using hNot)] at h
  cases h

theorem wholeValue_eq (cs : List Char) : wholeValue cs = ofDigits (cs.map digit) := by
  induction cs with
  | nil => rfl
  | cons c rest ih =>
    rw [wholeValue, ih, List.map_cons, ofDigits_cons, List.length_map]
    push_cast
    rfl

theorem fractionValue_eq (cs : List Char) :
    fractionValue cs = ofDigits (cs.map digit) / 10 ^ cs.length := by
  induction cs with
  | nil => simp [fractionValue, ofDigits]
  | cons c rest ih =>
    rw [fractionValue, ih, List.map_cons, ofDigits_cons, List.length_map, List.length_cons, pow_succ]
    push_cast
    field_simp

end Digits

namespace Numeral

variable (n : Numeral)

/-- Nothing of the number is lost in the decimal. -/
theorem value_decimal : n.decimal.value = n.value := by
  have hPower : (10 : ℚ) ^ n.decimal.exponent = (10 ^ n.fraction.digits.length)⁻¹ := by
    rw [decimal, zpow_neg, zpow_natCast]
  rw [Decimal.value, hPower, value, Sign.factor, wholeValue_eq, fractionValue_eq, decimal, digits,
    List.map_append, ofDigits_append, List.length_map]
  push_cast
  field_simp

end Numeral

namespace Numeral

variable (n : Numeral)

/-- The characters of numerals besides the digits. -/
def marks : List Char := ['+', '-', '.', ',']

theorem mem_text {c : Char} (h : c ∈ n.text) : c ∈ n.digits ∨ c ∈ marks := by
  simp only [text, List.mem_append] at h
  rcases h with hSign | hWhole | hFraction
  · right
    revert c
    cases n.sign <;> simp [Sign.text, marks]
  · exact .inl (List.mem_append_left _ hWhole)
  · rw [digits]
    rcases hParts : n.fraction with _ | ⟨separator, back⟩
    · rw [hParts] at hFraction
      cases hFraction
    · rw [hParts] at hFraction
      rcases List.mem_cons.mp hFraction with rfl | hBack
      · right
        cases separator <;> decide
      · exact .inl (List.mem_append_right _ hBack)

theorem mem_text_of_digit {c : Char} (h : c ∈ n.digits) : c ∈ n.text := by
  refine List.mem_append_right _ (List.mem_append.mpr ?_)
  refine (List.mem_append.mp h).imp_right fun hBack => ?_
  rcases hParts : n.fraction with _ | ⟨separator, back⟩
  · rw [hParts] at hBack
    cases hBack
  · rw [hParts] at hBack
    exact List.mem_cons_of_mem _ hBack

theorem isBlank_of_mem_text {c : Char} (h : c ∈ n.text) : Text.isBlank c = false := by
  have hMarks : ∀ c ∈ marks, Text.isBlank c = false := by simp [marks, Text.isBlank]
  rcases n.mem_text h with hDigit | hMark
  · exact Text.isBlank_of_isDecimalDigit (n.isDecimalDigit c hDigit)
  · exact hMarks c hMark

theorem mem_digits {c : Char} (h : c ∈ n.text) (hDigit : Text.isDecimalDigit c) :
    c ∈ n.digits := by
  have hMarks : ∀ c ∈ marks, Text.isDecimalDigit c = false := by
    simp [marks, Text.isDecimalDigit, Text.digitValue?]
  exact (n.mem_text h).resolve_right fun hMark => by simp [hMarks c hMark] at hDigit

theorem trimmed_text : Text.trimmed n.text = n.text :=
  Text.trimmed_of_noBlank fun _ => n.isBlank_of_mem_text

end Numeral

section Reading

variable {s body : List Char}

theorem signed_text (sign : Sign) (h : ∀ c, body.head? = some c → c ≠ '-' ∧ c ≠ '+') :
    signed (sign.text ++ body) = (sign.negates, body) := by
  cases sign with
  | plus | minus => rfl
  | none =>
    cases body with
    | nil => rfl
    | cons c rest =>
      obtain ⟨hMinus, hPlus⟩ := h c rfl
      simp [Sign.text, Sign.negates, signed, hMinus, hPlus]

theorem eq_of_signed {negative : Bool} (h : signed s = (negative, body)) :
    ∃ sign : Sign, s = sign.text ++ body ∧ negative = sign.negates := by
  unfold signed at h
  split at h <;> cases h
  · exact ⟨.minus, rfl, rfl⟩
  · exact ⟨.plus, rfl, rfl⟩
  · exact ⟨.none, rfl, rfl⟩

/-- A comma read as a point. -/
def pointed (c : Char) : Char := if c = ',' then '.' else c

theorem map_pointed (h : ',' ∉ s) : s.map pointed = s := by
  refine (List.map_congr_left fun c hc => ?_).trans (List.map_id s)
  have hOther : c ≠ ',' := fun hEq => h (hEq ▸ hc)
  exact if_neg hOther

/-- Characters other than the comma and the point are read as they are. -/
theorem eq_of_map_pointed {t : List Char} (h : s.map pointed = t) (hPoint : '.' ∉ t) : s = t := by
  have hComma : ',' ∉ s := fun hMem => hPoint (h ▸ List.mem_map_of_mem hMem)
  rw [← h, map_pointed hComma]

/-- A text with one comma and no point is read with a point instead; any other stays as it is. -/
theorem withPoint_cases (s : List Char) :
    (',' ∈ s ∧ '.' ∉ s ∧ withPoint s = s.map pointed) ∨ withPoint s = s := by
  unfold withPoint
  split
  · next hOnly =>
    simp only [Bool.and_eq_true, decide_eq_true_eq, Bool.not_eq_true', List.contains_eq_mem,
      decide_eq_false_iff_not] at hOnly
    exact .inl ⟨List.count_pos_iff.mp (by omega), hOnly.2, rfl⟩
  · exact .inr rfl

theorem withPoint_comma {t : List Char} (hs : ∀ c ∈ s, c ≠ ',' ∧ c ≠ '.')
    (ht : ∀ c ∈ t, c ≠ ',' ∧ c ≠ '.') : withPoint (s ++ ',' :: t) = s ++ '.' :: t := by
  have hComma {u : List Char} (hu : ∀ c ∈ u, c ≠ ',' ∧ c ≠ '.') : ',' ∉ u :=
    fun h => (hu _ h).1 rfl
  have hPoint {u : List Char} (hu : ∀ c ∈ u, c ≠ ',' ∧ c ≠ '.') : '.' ∉ u :=
    fun h => (hu _ h).2 rfl
  have hOnly : (s ++ ',' :: t).count ',' = 1 := by
    simp [List.count_append, List.count_eq_zero.mpr, hComma hs, hComma ht]
  have hNone : (s ++ ',' :: t).contains '.' = false := by simp [hPoint hs, hPoint ht]
  rw [withPoint, hOnly, hNone]
  show (s ++ ',' :: t).map pointed = s ++ '.' :: t
  rw [List.map_append, List.map_cons, map_pointed (hComma hs), map_pointed (hComma ht)]
  rfl

namespace Numeral

variable (n : Numeral)

theorem ne_of_mem_digits {c d : Char} (hc : c ∈ n.digits) (hd : Text.isDecimalDigit d = false) :
    c ≠ d :=
  Text.ne_of_isDecimalDigit (n.isDecimalDigit c hc) hd

/-- The digits behind the separator with a point in front of them. -/
def pointTail (f : Fraction) : List Char := (f.map fun part => '.' :: part.2).getD []

theorem ne_of_mem_sign {c : Char} (hc : c ∈ n.sign.text) : c ≠ ',' ∧ c ≠ '.' := by
  revert c
  cases n.sign <;> simp [Sign.text]

theorem ne_of_mem_front {c : Char} (hc : c ∈ n.sign.text ++ n.whole) : c ≠ ',' ∧ c ≠ '.' := by
  rcases List.mem_append.mp hc with hSign | hWhole
  · exact n.ne_of_mem_sign hSign
  · have hDigit := List.mem_append_left n.fraction.digits hWhole
    exact ⟨n.ne_of_mem_digits hDigit (by decide), n.ne_of_mem_digits hDigit (by decide)⟩

theorem ne_of_mem_fraction {c : Char} (hc : c ∈ n.fraction.digits) : c ≠ ',' ∧ c ≠ '.' := by
  have hDigit := List.mem_append_right n.whole hc
  exact ⟨n.ne_of_mem_digits hDigit (by decide), n.ne_of_mem_digits hDigit (by decide)⟩

/-- A numeral is read as if its separator were a point. -/
theorem withPoint_text : withPoint n.text = n.sign.text ++ (n.whole ++ pointTail n.fraction) := by
  have hFront := fun c hc => n.ne_of_mem_front (c := c) hc
  have hBack := fun c hc => n.ne_of_mem_fraction (c := c) hc
  rw [text, ← List.append_assoc, ← List.append_assoc]
  generalize n.sign.text ++ n.whole = front at hFront
  generalize n.fraction = fraction at hBack
  rcases fraction with _ | ⟨_ | _, digits⟩
  · rcases withPoint_cases (front ++ Fraction.text none) with ⟨hComma, -⟩ | hSame
    · simp only [Fraction.text, List.append_nil] at hComma
      exact absurd rfl (hFront _ hComma).1
    · exact hSame
  · rcases withPoint_cases (front ++ Fraction.text (some (.point, digits))) with ⟨-, hPoint, -⟩ | hSame
    · exact absurd (List.mem_append_right _ List.mem_cons_self) hPoint
    · exact hSame
  · exact withPoint_comma hFront hBack

/-- The first character behind the sign is no sign. -/
theorem head?_ne_sign {c : Char} (h : (n.whole ++ pointTail n.fraction).head? = some c) :
    c ≠ '-' ∧ c ≠ '+' := by
  cases hWhole : n.whole with
  | nil =>
    rw [hWhole] at h
    cases hFraction : n.fraction with
    | none => simp [hFraction, pointTail] at h
    | some part =>
      obtain rfl : '.' = c := by simpa [hFraction, pointTail] using h
      decide
  | cons d rest =>
    obtain rfl : d = c := by simpa [hWhole] using h
    have hDigit : d ∈ n.digits := by simp [digits, hWhole]
    exact ⟨n.ne_of_mem_digits hDigit (by decide), n.ne_of_mem_digits hDigit (by decide)⟩

theorem cut_tail : Text.cut '.' (n.whole ++ pointTail n.fraction) =
    (n.whole, n.fraction.map Prod.snd) := by
  have hPoint : '.' ∉ n.whole := fun h =>
    (n.ne_of_mem_front (List.mem_append_right _ h)).2 rfl
  cases hFraction : n.fraction with
  | none => simpa [pointTail] using Text.cut_of_not_mem hPoint
  | some part => exact Text.cut_append hPoint

/-- A numeral, with blanks around it or without, is read as the decimal that it writes down. -/
theorem amount?_text (h : Text.trimmed s = n.text) : amount? s = some n.decimal := by
  have hSome : (n.whole ++ (n.fraction.map Prod.snd).getD []).isEmpty = false :=
    List.isEmpty_eq_false_iff.mpr n.digits_ne_nil
  have hValue : digitsValue? (n.whole ++ (n.fraction.map Prod.snd).getD []) =
      some (ofDigits (n.digits.map digit)) := digitsValue?_of_digits n.isDecimalDigit
  unfold amount?
  simp only [h, n.withPoint_text, signed_text n.sign fun _ => n.head?_ne_sign, n.cut_tail, hSome,
    hValue]
  rfl

end Numeral

/-- A sign, digits and a fraction make a numeral if all digits are decimal and there is one. -/
theorem exists_numeral (sign : Sign) (fraction : Fraction) {whole : List Char} {coefficient : Nat}
    (hSome : whole ++ fraction.digits ≠ [])
    (hValue : digitsValue? (whole ++ fraction.digits) = some coefficient) :
    ∃ n : Numeral, n.text = sign.text ++ (whole ++ fraction.text) ∧
      n.decimal = ⟨sign.negates, coefficient, -(fraction.digits.length : Int)⟩ := by
  have hDigits := isDecimalDigit_of_digitsValue? hValue
  rw [digitsValue?_of_digits hDigits] at hValue
  obtain rfl := Option.some.inj hValue
  exact ⟨⟨sign, whole, fraction, hDigits, hSome⟩, rfl, rfl⟩

/-- What a text is read as tells its parts: the point was a point in the text or a comma, and without
a point there was neither. -/
theorem exists_fraction {front : List Char} {after : Option (List Char)} (hFront : '.' ∉ front)
    (hAfter : '.' ∉ after.getD [])
    (h : withPoint s = front ++ (after.map ('.' :: ·)).getD []) :
    ∃ fraction : Fraction, fraction.digits = after.getD [] ∧ s = front ++ fraction.text := by
  rcases withPoint_cases s with ⟨-, hPoint, hSwap⟩ | hSame
  · rw [hSwap] at h
    cases after with
    | none =>
      rw [Option.map_none, Option.getD_none, List.append_nil] at h
      exact ⟨none, rfl, by simpa [Fraction.text] using eq_of_map_pointed h hFront⟩
    | some digits =>
      obtain ⟨before, behind, rfl, hBefore, hBehind⟩ := List.map_eq_append_iff.mp h
      obtain ⟨c, rest, rfl, hComma, hRest⟩ := List.map_eq_cons_iff.mp hBehind
      obtain rfl : c = ',' := by
        by_contra hOther
        rw [pointed, if_neg hOther] at hComma
        exact hPoint (by simp [hComma])
      refine ⟨some (.comma, digits), rfl, ?_⟩
      rw [eq_of_map_pointed hBefore hFront, eq_of_map_pointed hRest hAfter]
      rfl
  · rw [hSame] at h
    cases after with
    | none => exact ⟨none, rfl, h⟩
    | some digits => exact ⟨some (.point, digits), rfl, h⟩

/-- What is read as an amount is a numeral. -/
theorem numeral_of_amount? {d : Decimal} (h : amount? s = some d) :
    ∃ n : Numeral, Text.trimmed s = n.text ∧ n.decimal = d := by
  rcases hSigned : signed (withPoint (Text.trimmed s)) with ⟨negative, body⟩
  rcases hCut : Text.cut '.' body with ⟨whole, after⟩
  simp only [amount?, hSigned, hCut] at h
  split at h
  · cases h
  next hSome =>
  obtain ⟨coefficient, hValue, rfl⟩ := Option.map_eq_some_iff.mp h
  replace hSome : whole ++ after.getD [] ≠ [] := by simpa using hSome
  have hNone {part : List Char} (hPart : part ⊆ whole ++ after.getD []) : '.' ∉ part := fun hMem =>
    absurd (isDecimalDigit_of_digitsValue? hValue _ (hPart hMem)) (by decide)
  obtain ⟨sign, hText, rfl⟩ := eq_of_signed hSigned
  rw [Text.eq_of_cut hCut, ← List.append_assoc] at hText
  have hFront : '.' ∉ sign.text ++ whole := by
    have hSign : '.' ∉ sign.text := by cases sign <;> decide
    have hWhole := hNone (List.subset_append_left whole (after.getD []))
    simp [hSign, hWhole]
  obtain ⟨fraction, hDigits, hParts⟩ :=
    exists_fraction hFront (hNone (List.subset_append_right _ _)) hText
  rw [← hDigits] at hSome hValue
  obtain ⟨n, hn, hDecimal⟩ := exists_numeral sign fraction hSome hValue
  refine ⟨n, ?_, ?_⟩
  · rw [hParts, hn, List.append_assoc]
  · rw [hDecimal, hDigits]

/-- A text is read as an amount exactly if it is a numeral, the blanks at both ends left aside; then
it is read as the decimal that the numeral writes down. -/
theorem amount?_eq_some {d : Decimal} :
    amount? s = some d ↔ ∃ n : Numeral, Text.trimmed s = n.text ∧ n.decimal = d := by
  constructor
  · exact numeral_of_amount?
  · rintro ⟨n, hText, rfl⟩
    exact n.amount?_text hText

theorem amount?_eq_none : amount? s = none ↔ ∀ n : Numeral, Text.trimmed s ≠ n.text := by
  rw [Option.eq_none_iff_forall_ne_some]
  constructor
  · exact fun h n hText => h n.decimal (n.amount?_text hText)
  · intro h d hd
    obtain ⟨n, hText, -⟩ := amount?_eq_some.mp hd
    exact h n hText

end Reading

end Number

end Intake
