import Intake.Proofs.Number.Numeral

/-! Plain numerals: those that decimals are written as when they are rendered. They have no plus
sign, ASCII digits only, one of them at least before the point, and a fixed number behind it. -/

namespace Intake.Number

/-- A numeral as numbers are rendered with `p` places: no plus sign, ASCII digits, one of them at
least in front, and `p` of them behind a point, which is left out if there are none. -/
structure Numeral.IsPlain (n : Numeral) (p : Nat) : Prop where
  sign : n.sign ≠ .plus
  isDigit : ∀ c ∈ n.digits, c.isDigit
  whole_ne_nil : n.whole ≠ []
  places : n.fraction.digits.length = p
  point : n.fraction = if p = 0 then none else some (.point, n.fraction.digits)

theorem digitValue?_of_isDigit {c : Char} (h : c.isDigit) :
    Text.digitValue? c = some (c.toNat - 48) := by
  have hAscii : c.val < 128 := by
    simp only [Char.isDigit, Bool.and_eq_true, decide_eq_true_eq] at h
    exact UInt32.lt_of_le_of_lt h.2 (by decide)
  rw [Text.digitValue?, if_pos hAscii, if_pos h]

theorem isDecimalDigit_of_isDigit {c : Char} (h : c.isDigit) : Text.isDecimalDigit c :=
  Text.isDecimalDigit_iff.mpr ⟨_, digitValue?_of_isDigit h⟩

/-- The digits of a number denote it. -/
theorem ofDigits_digitsOf (n : Nat) : ofDigits ((digitsOf n).map digit) = n := by
  have hValue : ∀ c ∈ digitsOf n, digit c = c.toNat - '0'.toNat := fun c hc => by
    rw [digit, digitValue?_of_isDigit (Nat.isDigit_of_mem_toDigits (by decide) (by decide) hc)]
    rfl
  have hRead : Nat.ofDigitChars 10 (digitsOf n) 0 = n :=
    Nat.ofDigitChars_toDigits (by decide) (by decide)
  rw [List.map_congr_left hValue, ofDigits, List.foldl_map]
  rw [Nat.ofDigitChars_eq_foldl] at hRead
  exact hRead

namespace Decimal

/-- Digits with enough zeros in front to have `p` of them behind the point and one before. -/
def filled (digits : List Char) (p : Nat) : List Char :=
  List.replicate (p + 1 - digits.length) '0' ++ digits

theorem length_filled (digits : List Char) (p : Nat) : p < (filled digits p).length := by
  simp only [filled, List.length_append, List.length_replicate]
  omega

theorem pointed_eq (digits : List Char) (p : Nat) :
    pointed digits p =
      if p = 0 then (filled digits p).take ((filled digits p).length - p)
      else (filled digits p).take ((filled digits p).length - p) ++
        '.' :: (filled digits p).drop ((filled digits p).length - p) := rfl

theorem isDigit_of_mem_filled {n p : Nat} {c : Char} (h : c ∈ filled (digitsOf n) p) :
    c.isDigit := by
  rcases List.mem_append.mp h with hZero | hDigit
  · obtain rfl := List.eq_of_mem_replicate hZero
    rfl
  · exact Nat.isDigit_of_mem_toDigits (by decide) (by decide) hDigit

theorem ofDigits_filled (n p : Nat) : ofDigits ((filled (digitsOf n) p).map digit) = n := by
  rw [filled, List.map_append, List.map_replicate, show digit '0' = 0 from rfl, ofDigits_zeros,
    ofDigits_digitsOf]

/-- The digits in front of the point. -/
def front (coefficient p : Nat) : List Char :=
  (filled (digitsOf coefficient) p).take ((filled (digitsOf coefficient) p).length - p)

/-- The digits behind the point. -/
def back (coefficient p : Nat) : List Char :=
  (filled (digitsOf coefficient) p).drop ((filled (digitsOf coefficient) p).length - p)

/-- The point with the digits behind it, if there are any. -/
def backFraction (coefficient p : Nat) : Fraction :=
  if p = 0 then none else some (.point, back coefficient p)

section Parts

variable (coefficient p : Nat)

theorem front_append_back : front coefficient p ++ back coefficient p =
    filled (digitsOf coefficient) p :=
  List.take_append_drop _ _

theorem length_back : (back coefficient p).length = p := by
  have hLength := length_filled (digitsOf coefficient) p
  rw [back, List.length_drop]
  omega

theorem front_ne_nil : front coefficient p ≠ [] := by
  have hLength := length_filled (digitsOf coefficient) p
  refine List.ne_nil_of_length_pos ?_
  rw [front, List.length_take]
  omega

theorem digits_backFraction : (backFraction coefficient p).digits = back coefficient p := by
  unfold backFraction
  split
  · next hZero => exact (List.eq_nil_of_length_eq_zero ((length_back _ _).trans hZero)).symm
  · rfl

theorem pointed_parts : pointed (digitsOf coefficient) p =
    front coefficient p ++ (backFraction coefficient p).text := by
  rw [pointed_eq, backFraction]
  split
  · exact (List.append_nil _).symm
  · rfl

theorem isDigit_of_mem {c : Char}
    (h : c ∈ front coefficient p ++ (backFraction coefficient p).digits) : c.isDigit := by
  rw [digits_backFraction, front_append_back] at h
  exact isDigit_of_mem_filled h

end Parts

/-- The sign that a decimal is written with. -/
def sign (d : Decimal) : Sign := if d.negative then .minus else .none

theorem negates_sign (d : Decimal) : d.sign.negates = d.negative := by
  unfold sign
  cases d.negative <;> rfl

theorem text_sign (d : Decimal) : d.sign.text = d.signText := by
  unfold sign signText
  cases d.negative <;> rfl

/-- The numeral that a decimal in `p` places is written as. -/
def numeral (d : Decimal) (p : Nat) : Numeral where
  sign := d.sign
  whole := front d.coefficient p
  fraction := backFraction d.coefficient p
  isDecimalDigit _ h := isDecimalDigit_of_isDigit (isDigit_of_mem _ _ h)
  digits_ne_nil := List.append_ne_nil_of_left_ne_nil (front_ne_nil _ _) _

section Written

variable {d : Decimal} {p : Nat}

theorem isPlain_numeral : (d.numeral p).IsPlain p where
  sign := by
    show d.sign ≠ .plus
    unfold Decimal.sign
    split <;> decide
  isDigit _ := isDigit_of_mem _ _
  whole_ne_nil := front_ne_nil _ _
  places := (congrArg List.length (digits_backFraction _ _)).trans (length_back _ _)
  point := by
    show backFraction d.coefficient p =
      if p = 0 then none else some (.point, (backFraction d.coefficient p).digits)
    rw [digits_backFraction]
    rfl

/-- A decimal in `p` places is written as its numeral. -/
theorem toList_plain (h : d.exponent = -(p : Int)) : d.plain.toList = (d.numeral p).text := by
  have hNonpositive : d.exponent ≤ 0 := by omega
  have hAbs : d.exponent.natAbs = p := by omega
  rw [plain, String.toList_ofList, if_pos hNonpositive, hAbs, pointed_parts, ← text_sign]
  rfl

/-- The numeral of a decimal writes down that decimal. -/
theorem decimal_numeral (h : d.exponent = -(p : Int)) : (d.numeral p).decimal = d := by
  have hValue : ofDigits ((d.numeral p).digits.map digit) = d.coefficient := by
    show ofDigits ((front d.coefficient p ++ (backFraction d.coefficient p).digits).map digit) = _
    rw [digits_backFraction, front_append_back, ofDigits_filled]
  rw [Numeral.decimal, hValue, isPlain_numeral.places, ← h]
  exact (mk.injEq ..).mpr ⟨negates_sign d, rfl, rfl⟩

theorem value_numeral (h : d.exponent = -(p : Int)) : (d.numeral p).value = d.value := by
  rw [← Numeral.value_decimal, decimal_numeral h]

/-- A decimal is read back from its text, with the same places. -/
theorem amount?_plain (h : d.exponent = -(p : Int)) : amount? d.plain.toList = some d := by
  have hText : Text.trimmed d.plain.toList = (d.numeral p).text := by
    rw [toList_plain h, Numeral.trimmed_text]
  rw [Numeral.amount?_text _ hText, decimal_numeral h]

end Written

end Decimal

end Intake.Number
