import Intake.Proofs.Chain.Failures
import Intake.Proofs.Number.Nearest
import Intake.Proofs.Number.Plain

/-! Numbers in chains. A text is converted to a decimal exactly if it is a numeral, and then to the
number that the numeral denotes. The operations that render numbers round it to the nearest multiple
of a power of ten and write that down as a plain numeral. The numeral is read back as the number it
was written for, so rendering it again changes nothing, and whole numbers are the same whether a text
is rendered before it is converted or not. -/

namespace Intake.Chain

open Number

/-- A text denotes a number if it is a numeral for it, the blanks at both ends left aside. -/
def Denotes (text : String) (x : ℚ) : Prop :=
  ∃ n : Numeral, Text.trimmed text.toList = n.text ∧ n.value = x

/-- A text shows a number with `p` places if it is a plain numeral for it. -/
def Shows (text : String) (p : Nat) (x : ℚ) : Prop :=
  ∃ n : Numeral, text.toList = n.text ∧ n.IsPlain p ∧ n.value = x

section Conversion

variable {today : Calendar.Date} {text raw : String} {type : FieldType} {operation : Option String}

theorem denotes_iff {x : ℚ} :
    Denotes text x ↔ ∃ d, amount? text.toList = some d ∧ d.value = x := by
  constructor
  · rintro ⟨n, hText, hValue⟩
    exact ⟨n.decimal, n.amount?_text hText, n.value_decimal.trans hValue⟩
  · rintro ⟨d, hRead, hValue⟩
    obtain ⟨n, hText, rfl⟩ := amount?_eq_some.mp hRead
    exact ⟨n, hText, n.value_decimal.symm.trans hValue⟩

theorem not_denotes_of_none {x : ℚ} (h : amount? text.toList = none) : ¬Denotes text x := by
  intro hText
  obtain ⟨d, hRead, -⟩ := denotes_iff.mp hText
  rw [h] at hRead
  cases hRead

theorem convert_decimal_of_amount? {d : Decimal} (hType : type.present = .single .decimal)
    (h : amount? text.toList = some d) :
    convert today text type raw operation = .ok (.decimal d) := by
  refine convert_eq_ok.mpr ⟨.decimal, hType, ?_⟩
  unfold valueOf
  dsimp only
  rw [h]

theorem convert_decimal_of_none (hType : type.present = .single .decimal)
    (h : amount? text.toList = none) :
    convert today text type raw operation =
      .error (.refused ⟨.inconvertible text (.single .decimal) (.not .number), raw, operation,
        some (.single .decimal)⟩) := by
  refine convert_eq_refused.mpr ⟨.not .number, ?_, by rw [hType]⟩
  rw [hType]
  unfold Mismatches valueOf
  dsimp only
  rw [h]

/-- A text is converted to a decimal exactly if it is a numeral, the blanks at both ends left aside.
The decimal has the value of the numeral, whatever number of digits it has, and every other text is
refused. -/
theorem convert_decimal_numeral (hType : type.present = .single .decimal) :
    ((∃ v, convert today text type raw operation = .ok v) ↔
      ∃ n : Numeral, Text.trimmed text.toList = n.text) ∧
    (∀ n : Numeral, Text.trimmed text.toList = n.text →
      ∃ d, convert today text type raw operation = .ok (.decimal d) ∧ d.value = n.value) ∧
    ((∀ n : Numeral, Text.trimmed text.toList ≠ n.text) →
      convert today text type raw operation =
        .error (.refused ⟨.inconvertible text (.single .decimal) (.not .number), raw, operation,
          some (.single .decimal)⟩)) := by
  have hNumeral (n : Numeral) (hText : Text.trimmed text.toList = n.text) :
      convert today text type raw operation = .ok (.decimal n.decimal) :=
    convert_decimal_of_amount? hType (n.amount?_text hText)
  refine ⟨⟨?_, ?_⟩, ?_, ?_⟩
  · rintro ⟨v, hv⟩
    by_contra hNot
    have hNone : amount? text.toList = none :=
      amount?_eq_none.mpr fun n hText => hNot ⟨n, hText⟩
    rw [convert_decimal_of_none hType hNone] at hv
    cases hv
  · rintro ⟨n, hText⟩
    exact ⟨_, hNumeral n hText⟩
  · exact fun n hText => ⟨n.decimal, hNumeral n hText, n.value_decimal⟩
  · exact fun hNone => convert_decimal_of_none hType (amount?_eq_none.mpr hNone)

/-- Digits of two scripts with a comma among them make a decimal, a power of ten makes none. -/
theorem convert_decimal_numeral_mixedDigits :
    (∃ d, convert default " +1٢,5 " (.optional .decimal) " +1٢,5 " none = .ok (.decimal d) ∧
      d.value = 25 / 2) ∧
    ∀ v, convert default "1e5" (.single .decimal) "1e5" none ≠ .ok v := by
  constructor
  · let n : Numeral := ⟨.plus, ['1', '٢'], some (.comma, ['5']),
      List.forall_iff_forall_mem.mp (by decide), by decide⟩
    have hValue : n.value = 25 / 2 := by
      rw [Numeral.value, wholeValue_eq, fractionValue_eq]
      norm_num [n, Sign.factor, Sign.negates, Fraction.digits, digit, ofDigits,
        show Text.digitValue? '1' = some 1 by decide, show Text.digitValue? '٢' = some 2 by decide,
        show Text.digitValue? '5' = some 5 by decide]
    rw [← hValue]
    exact (convert_decimal_numeral (by decide)).2.1 n (by decide)
  · intro v hv
    obtain ⟨n, hText⟩ := (convert_decimal_numeral (by decide)).1.mp ⟨v, hv⟩
    exact amount?_eq_none.mp (by decide : amount? "1e5".toList = none) n hText

end Conversion

section Rendering

variable {c : Context} {op : Operation} {parameter : Option String} {p : Nat} {flow flow' : Flow}

/-- An operation renders numbers with `p` places: the places of its parameter, or else those of the
settings; none if it renders integers. -/
def Operation.Rounds (c : Context) (op : Operation) (parameter : Option String) (p : Nat) : Prop :=
  match op with
  | .integerFormat => p = 0
  | .currencyFormat => places op parameter c.settings.currencyPlaces = .ok p
  | .decimalFormat => places op parameter c.settings.decimalPlaces = .ok p
  | _ => False

theorem Operation.run_of_rounds (h : op.Rounds c parameter p) :
    op.run c flow parameter = renderNumber op flow.text p := by
  cases op with
  | integerFormat =>
    obtain rfl : p = 0 := h
    rfl
  | currencyFormat | decimalFormat =>
    have hPlaces : places _ parameter _ = pure (p : Int) := h
    unfold run
    dsimp only
    rw [hPlaces, pure_bind]
  | _ => exact absurd h id

/-- A number is rendered if it takes at most 28 digits, and then in the places wanted. -/
theorem renderNumber_eq_ok {text : String} (hPlaces : p ≤ maxPlaces) :
    renderNumber op text p = .ok flow ↔ ∃ d, amount? text.toList = some d ∧
      (d.rescaled p).coefficient < tenTo precision ∧ flow = ⟨(d.rescaled p).plain, some .number⟩ := by
  unfold renderNumber
  rw [bind_eq_ok]
  cases hRead : amount? text.toList with
  | none => simp [expecting]
  | some d =>
    simp only [expecting, Except.ok.injEq, Option.some.injEq, exists_eq_left']
    constructor
    · intro h
      split at h
      · next rounded hRound =>
        obtain ⟨hDigits, rfl⟩ := (Decimal.round_eq_ok hPlaces).mp hRound
        cases h
        exact ⟨hDigits, rfl⟩
      · cases h
    · rintro ⟨hDigits, rfl⟩
      rw [(Decimal.round_eq_ok hPlaces).mpr ⟨hDigits, rfl⟩]
      rfl

theorem convert_whole_of_amount? {today : Calendar.Date} {text raw : String} {type : FieldType}
    {operation : Option String} {d : Decimal} (hType : type.present = .single .whole)
    (hRead : amount? text.toList = some d)
    (hDigits : (d.rescaled (0 : Nat)).coefficient < tenTo precision) :
    convert today text type raw operation = .ok (.whole (d.rescaled (0 : Nat)).truncated) := by
  have hRound : d.round 0 = .ok (d.rescaled (0 : Nat)) :=
    (Decimal.round_eq_ok (by decide)).mpr ⟨hDigits, rfl⟩
  refine convert_eq_ok.mpr ⟨.whole, hType, ?_⟩
  unfold valueOf
  dsimp only
  rw [hRead]
  dsimp only
  rw [hRound]
  rfl

/-- What a text denotes is rounded to the nearest multiple. -/
theorem exists_rescaled {text : String} {x y : ℚ} (hText : Denotes text x)
    (hNearest : Nearest p x y) :
    ∃ d, amount? text.toList = some d ∧ (d.rescaled p).value = y := by
  obtain ⟨d, hRead, rfl⟩ := denotes_iff.mp hText
  exact ⟨d, hRead, (d.rescaled_nearest p).unique hNearest⟩

theorem coefficient_lt_iff {d : Decimal} :
    (d.rescaled p).coefficient < tenTo precision ↔
      |(d.rescaled p).value| * 10 ^ p < 10 ^ precision := by
  rw [← Decimal.coefficient_eq (Decimal.rescaled_exponent p), ← tenTo_cast]
  exact_mod_cast Iff.rfl

/-- How an operation renders numbers with `p` places. -/
structure RendersNearest (c : Context) (op : Operation) (parameter : Option String) (p : Nat) :
    Prop where
  /-- One multiple of `10 ^ -p` is nearest to a number that is rendered. -/
  existsUnique {text : String} {x : ℚ} : Denotes text x → ∃! y, Nearest p x y
  /-- The text that is rendered shows it, unless that takes more than 28 digits. -/
  shows {flow : Flow} {x y : ℚ} : Denotes flow.text x → Nearest p x y →
    |y| * 10 ^ p < 10 ^ precision →
      ∃ t, op.run c flow parameter = .ok ⟨t, some .number⟩ ∧ Shows t p y
  /-- Rendering once more changes nothing. -/
  again {flow flow' : Flow} : op.run c flow parameter = .ok flow' →
    op.run c flow' parameter = .ok flow'
  /-- A greater number is not rendered as a smaller one. -/
  mono {flow₁ flow₂ flow₁' flow₂' : Flow} {x₁ x₂ y₁ y₂ : ℚ} :
    Denotes flow₁.text x₁ → Denotes flow₂.text x₂ → x₁ ≤ x₂ →
    op.run c flow₁ parameter = .ok flow₁' → op.run c flow₂ parameter = .ok flow₂' →
    Denotes flow₁'.text y₁ → Denotes flow₂'.text y₂ → y₁ ≤ y₂
  /-- The decimal that is made of the rendered text is the rounded number. -/
  decimal {flow flow' : Flow} {x y : ℚ} : Denotes flow.text x → Nearest p x y →
    op.run c flow parameter = .ok flow' → ∀ today type raw operation,
      type.present = .single .decimal → ∃ d,
        convert today flow'.text type raw operation = .ok (.decimal d) ∧ d.value = y
  /-- Without places, the whole number that is made of the rendered text is the one that is made of
  the text itself. -/
  whole {flow : Flow} {x y : ℚ} : p = 0 → Denotes flow.text x → Nearest p x y →
    |y| < 10 ^ precision → ∃ (k : ℤ) (flow' : Flow), (k : ℚ) = y ∧
      op.run c flow parameter = .ok flow' ∧ ∀ today type raw operation,
        type.present = .single .whole →
          convert today flow.text type raw operation = .ok (.whole k) ∧
          convert today flow'.text type raw operation = .ok (.whole k)

section Rounds

variable (hRounds : op.Rounds c parameter p) (hPlaces : p ≤ maxPlaces)

include hRounds hPlaces

theorem Operation.run_eq_ok :
    op.run c flow parameter = .ok flow' ↔ ∃ d, amount? flow.text.toList = some d ∧
      (d.rescaled p).coefficient < tenTo precision ∧
      flow' = ⟨(d.rescaled p).plain, some .number⟩ := by
  rw [run_of_rounds hRounds, renderNumber_eq_ok hPlaces]

/-- What a rendered text denotes is the multiple nearest to what it was made of. -/
theorem Operation.nearest_of_run {x y : ℚ} (hText : Denotes flow.text x)
    (hRun : op.run c flow parameter = .ok flow') (hShown : Denotes flow'.text y) :
    Nearest p x y := by
  obtain ⟨d, hRead, rfl⟩ := denotes_iff.mp hText
  obtain ⟨d', hRead', -, rfl⟩ := (run_eq_ok hRounds hPlaces).mp hRun
  obtain rfl : d = d' := Option.some.inj (hRead.symm.trans hRead')
  obtain ⟨r, hAgain, rfl⟩ := denotes_iff.mp hShown
  obtain rfl : d.rescaled p = r :=
    Option.some.inj ((Decimal.amount?_plain (d.rescaled_exponent p)).symm.trans hAgain)
  exact d.rescaled_nearest p

/-- An operation that renders numbers renders each of them as the multiple nearest to it. -/
theorem Operation.rendersNearest : RendersNearest c op parameter p where
  existsUnique hText := by
    obtain ⟨d, -, rfl⟩ := denotes_iff.mp hText
    exact ⟨_, d.rescaled_nearest p, fun _ hOther => hOther.unique (d.rescaled_nearest p)⟩
  shows hText hNearest hFits := by
    obtain ⟨d, hRead, rfl⟩ := exists_rescaled hText hNearest
    have hExponent := d.rescaled_exponent p
    refine ⟨(d.rescaled p).plain, ?_, (d.rescaled p).numeral p, Decimal.toList_plain hExponent,
      Decimal.isPlain_numeral, Decimal.value_numeral hExponent⟩
    exact (run_eq_ok hRounds hPlaces).mpr ⟨d, hRead, coefficient_lt_iff.mpr hFits, rfl⟩
  again hRun := by
    obtain ⟨d, -, hDigits, rfl⟩ := (run_eq_ok hRounds hPlaces).mp hRun
    have hExponent := d.rescaled_exponent p
    have hSame := Decimal.rescaled_self hExponent
    refine (run_eq_ok hRounds hPlaces).mpr
      ⟨d.rescaled p, Decimal.amount?_plain hExponent, ?_, ?_⟩
    · rwa [hSame]
    · rw [hSame]
  mono hText₁ hText₂ hLe hRun₁ hRun₂ hShown₁ hShown₂ := by
    have hNearest₁ := nearest_of_run hRounds hPlaces hText₁ hRun₁ hShown₁
    have hNearest₂ := nearest_of_run hRounds hPlaces hText₂ hRun₂ hShown₂
    exact hNearest₁.mono hNearest₂ hLe
  decimal hText hNearest hRun today type raw operation hType := by
    obtain ⟨d, hRead, rfl⟩ := exists_rescaled hText hNearest
    obtain ⟨d', hRead', -, rfl⟩ := (run_eq_ok hRounds hPlaces).mp hRun
    obtain rfl : d = d' := Option.some.inj (hRead.symm.trans hRead')
    exact ⟨_, convert_decimal_of_amount? hType (Decimal.amount?_plain (d.rescaled_exponent p)), rfl⟩
  whole hZero hText hNearest hFits := by
    subst hZero
    obtain ⟨d, hRead, rfl⟩ := exists_rescaled hText hNearest
    have hExponent := d.rescaled_exponent (0 : Nat)
    have hDigits : (d.rescaled (0 : Nat)).coefficient < tenTo precision :=
      coefficient_lt_iff.mpr (by rwa [pow_zero, mul_one])
    have hSame := Decimal.rescaled_self hExponent
    refine ⟨(d.rescaled (0 : Nat)).truncated, ⟨(d.rescaled (0 : Nat)).plain, some .number⟩,
      Decimal.truncated_eq rfl, ?_, ?_⟩
    · exact (run_eq_ok hRounds hPlaces).mpr ⟨d, hRead, hDigits, rfl⟩
    · intro today type raw operation hType
      refine ⟨convert_whole_of_amount? hType hRead hDigits, ?_⟩
      rw [convert_whole_of_amount? hType (Decimal.amount?_plain hExponent) (by rwa [hSame]), hSame]

end Rounds

/-- A half is rounded away from zero, and what is rendered then stays as it is. -/
theorem rendersNearest_half :
    let c : Context := ⟨{}, default⟩
    ∃ t, Operation.decimalFormat.run c ⟨"-2,345", none⟩ (some "2") = .ok ⟨t, some .number⟩ ∧
      Shows t 2 (-47 / 20) ∧
      Operation.decimalFormat.run c ⟨t, some .number⟩ (some "2") = .ok ⟨t, some .number⟩ := by
  intro c
  have hRounds : Operation.decimalFormat.Rounds c (some "2") 2 := by
    show places .decimalFormat (some "2") 3 = .ok 2
    decide +kernel
  have hRenders := Operation.rendersNearest hRounds (by decide)
  have hText : Denotes "-2,345" (-469 / 200) :=
    denotes_iff.mpr ⟨⟨true, 2345, -3⟩, by decide, by norm_num [Decimal.value]⟩
  have hNearest : Nearest 2 (-469 / 200) (-47 / 20) := by
    have hRounded := Decimal.rescaled_nearest ⟨true, 2345, -3⟩ 2
    have hSame : Decimal.rescaled ⟨true, 2345, -3⟩ (2 : Nat) = ⟨true, 235, -2⟩ := by decide
    rw [hSame] at hRounded
    convert hRounded using 1 <;> norm_num [Decimal.value]
  obtain ⟨t, hRun, hShows⟩ : ∃ t,
      Operation.decimalFormat.run c ⟨"-2,345", none⟩ (some "2") = .ok ⟨t, some .number⟩ ∧
        Shows t 2 (-47 / 20) :=
    hRenders.shows hText hNearest (by norm_num [precision])
  exact ⟨t, hRun, hShows, hRenders.again hRun⟩

end Rendering

end Intake.Chain
