import Intake.Proofs.Chain.Composition
import Intake.Proofs.Chain.Numbers

/-! Zeros stripped from the beginning of a number. The number stays the same as long as a digit is
left of it, or nothing at all, for which one zero is put. Zeros with a bare separator or blanks
behind them are the exception: what is left of those is no number. -/

namespace Intake

section Zeros

variable {s rest : List Char} {k : Nat}

/-- The zeros at the beginning of a text, and what begins otherwise. -/
theorem exists_zeros (s : List Char) :
    ∃ k rest, s = List.replicate k '0' ++ rest ∧ rest.head? ≠ some '0' := by
  induction s with
  | nil => exact ⟨0, [], rfl, nofun⟩
  | cons c s ih =>
    by_cases hZero : c = '0'
    · obtain ⟨k, rest, hs, hRest⟩ := ih
      exact ⟨k + 1, rest, by rw [hZero, hs]; rfl, hRest⟩
    · exact ⟨0, c :: s, rfl, fun h => hZero (Option.some.inj h)⟩

theorem dropWhile_zeros (hRest : rest.head? ≠ some '0') :
    (List.replicate k '0' ++ rest).dropWhile (· == '0') = rest := by
  rw [List.dropWhile_append_of_pos fun c hc => by simp [List.eq_of_mem_replicate hc]]
  exact Text.dropWhile_eq_self fun c hc => beq_eq_false_iff_ne.mpr fun hEq => hRest (hEq ▸ hc)

end Zeros

namespace Number

open Chain (Denotes)

/-- A numeral without the zeros at its beginning, if a digit is left of it. -/
def Numeral.stripped (n : Numeral)
    (h : n.whole.dropWhile (· == '0') ++ n.fraction.digits ≠ []) : Numeral where
  sign := n.sign
  whole := n.whole.dropWhile (· == '0')
  fraction := n.fraction
  isDecimalDigit c hc := by
    refine n.isDecimalDigit c ?_
    rcases List.mem_append.mp hc with hWhole | hFraction
    · exact List.mem_append_left _ (List.dropWhile_subset _ hWhole)
    · exact List.mem_append_right _ hFraction
  digits_ne_nil := h

/-- Zeros at the beginning do not count. -/
theorem Numeral.decimal_stripped (n : Numeral)
    (h : n.whole.dropWhile (· == '0') ++ n.fraction.digits ≠ []) :
    (n.stripped h).decimal = n.decimal := by
  obtain ⟨k, rest, hWhole, hRest⟩ := exists_zeros n.whole
  have hDigits : ofDigits (n.digits.map digit) = ofDigits ((n.stripped h).digits.map digit) := by
    show ofDigits ((n.whole ++ n.fraction.digits).map digit) =
      ofDigits ((n.whole.dropWhile (· == '0') ++ n.fraction.digits).map digit)
    rw [hWhole, dropWhile_zeros hRest, List.append_assoc, List.map_append, List.map_replicate]
    exact ofDigits_zeros k _
  rw [decimal, decimal, hDigits]
  rfl

/-- What begins with a zero has no sign. -/
theorem Numeral.sign_of_zero {n : Numeral} {rest : List Char} (h : n.text = '0' :: rest) :
    n.sign = .none := by
  unfold text at h
  cases hSign : n.sign with
  | none => rfl
  | plus | minus =>
    rw [hSign] at h
    exact absurd (List.head_eq_of_cons_eq h) (by decide)

theorem Fraction.head?_text (f : Fraction) : f.text.head? ≠ some '0' := by
  rcases f with _ | ⟨_ | _, digits⟩ <;> simp [Fraction.text, Separator.char]

theorem Fraction.mem_digits {f : Fraction} {c : Char} (h : c ∈ f.text)
    (hDigit : Text.isDecimalDigit c) : c ∈ f.digits := by
  rcases f with _ | ⟨separator, digits⟩
  · cases h
  · rcases List.mem_cons.mp h with rfl | hMem
    · cases separator <;> exact absurd hDigit (by decide)
    · exact hMem

theorem Numeral.dropWhile_text {n : Numeral} (hSign : n.sign = .none) :
    n.text.dropWhile (· == '0') = n.whole.dropWhile (· == '0') ++ n.fraction.text := by
  obtain ⟨k, rest, hWhole, hRest⟩ := exists_zeros n.whole
  have hText : n.text = List.replicate k '0' ++ (rest ++ n.fraction.text) := by
    rw [text, hSign, hWhole, List.append_assoc]
    rfl
  have hStart : (rest ++ n.fraction.text).head? ≠ some '0' := by
    cases rest with
    | nil => exact n.fraction.head?_text
    | cons c rest => exact hRest
  rw [hText, dropWhile_zeros hStart, hWhole, dropWhile_zeros hRest]

/-- The zeros in front of a numeral and what is trimmed behind them make it up, unless there are
only blanks. -/
theorem Numeral.text_zeros {n : Numeral} {k : Nat} {rest : List Char} {c : Char}
    (hText : Text.trimmed (List.replicate (k + 1) '0' ++ rest) = n.text) (hMem : c ∈ rest)
    (hBlank : Text.isBlank c = false) :
    n.text = List.replicate (k + 1) '0' ++ Text.trimmed rest ∧
      (Text.trimmed rest).head? = rest.head? := by
  have hZero : ∀ c ∈ List.replicate (k + 1) '0', Text.isBlank c = false := fun c hc => by
    rw [List.eq_of_mem_replicate hc]
    decide
  rw [Text.trimmed_append (by simp) (fun c hc => hZero c (List.mem_of_head? hc))
    fun c hc => hZero c (List.mem_of_getLast? hc)] at hText
  obtain ⟨blanks, hBlanks⟩ := Text.dropEnd_isPrefix Text.isBlank rest
  obtain ⟨first, more, hFirst⟩ :=
    List.exists_cons_of_ne_nil (List.ne_nil_of_mem (Text.mem_dropEnd hMem hBlank))
  have hStart : rest.head? = some first := by
    rw [← hBlanks, hFirst]
    rfl
  have hTrimmed : Text.trimmed rest = Text.dropEnd Text.isBlank rest := by
    rw [Text.trimmed, Text.dropWhile_eq_self]
    intro a ha
    obtain rfl : first = a := Option.some.inj (hStart.symm.trans ha)
    refine n.isBlank_of_mem_text (hText ▸ List.mem_append_right _ ?_)
    rw [hFirst]
    exact List.mem_cons_self
  rw [hTrimmed, hStart, hFirst]
  exact ⟨hFirst ▸ hText.symm, rfl⟩

/-- A numeral with zeros in front is read as what it is without them, if a digit is left. -/
theorem amount?_zeros {k : Nat} {rest : List Char} {d : Decimal}
    (hRead : amount? (List.replicate k '0' ++ rest) = some d) (hRest : rest.head? ≠ some '0')
    (hDigit : ∃ c ∈ rest, Text.isDecimalDigit c) : amount? rest = some d := by
  cases k with
  | zero => exact hRead
  | succ k =>
    obtain ⟨n, hTrimmed, rfl⟩ := amount?_eq_some.mp hRead
    obtain ⟨c, hMem, hDigit⟩ := hDigit
    have hBlank := Text.isBlank_of_isDecimalDigit hDigit
    obtain ⟨hText, hStart⟩ := n.text_zeros hTrimmed hMem hBlank
    have hSign := Numeral.sign_of_zero hText
    have hParts : Text.trimmed rest = n.whole.dropWhile (· == '0') ++ n.fraction.text := by
      rw [← Numeral.dropWhile_text hSign, hText, dropWhile_zeros (hStart ▸ hRest)]
    have hSome : n.whole.dropWhile (· == '0') ++ n.fraction.digits ≠ [] := by
      refine List.ne_nil_of_mem (a := c) (List.mem_append.mpr ?_)
      have hKept : c ∈ Text.trimmed rest := Text.mem_trimmed hMem hBlank
      rw [hParts, List.mem_append] at hKept
      exact hKept.imp_right fun hFraction => Fraction.mem_digits hFraction hDigit
    have hStripped : Text.trimmed rest = (n.stripped hSome).text := by
      rw [hParts]
      show _ = n.sign.text ++ _
      rw [hSign]
      rfl
    rw [(n.stripped hSome).amount?_text hStripped, n.decimal_stripped hSome]

/-- A numeral of nothing but zeros writes down zero. -/
theorem Numeral.coefficient_eq_zero {n : Numeral} (h : ∀ c ∈ n.digits, c = '0') :
    n.decimal.coefficient = 0 := by
  have hZero := ofDigits_zeros n.digits.length []
  rw [List.append_nil] at hZero
  show ofDigits (n.digits.map digit) = 0
  rw [List.eq_replicate_of_mem h, List.map_replicate]
  exact hZero

/-- A row of zeros is read as a single one. -/
theorem amount?_replicate (k : Nat) :
    amount? (List.replicate (k + 1) '0') = some ⟨false, 0, 0⟩ := by
  let n : Numeral := ⟨.none, List.replicate (k + 1) '0', none, fun c hc => by
    rw [Fraction.digits, Option.map_none, Option.getD_none, List.append_nil] at hc
    rw [List.eq_of_mem_replicate hc]
    decide, by simp⟩
  have hText : n.text = List.replicate (k + 1) '0' := List.append_nil _
  have hZeros : ∀ c ∈ n.digits, c = '0' := fun c hc => by
    rw [show n.digits = List.replicate (k + 1) '0' from List.append_nil _] at hc
    exact List.eq_of_mem_replicate hc
  rw [← hText, n.amount?_text n.trimmed_text]
  exact congrArg some ((Decimal.mk.injEq ..).mpr ⟨rfl, Numeral.coefficient_eq_zero hZeros, rfl⟩)

end Number

namespace Chain

open Number

/-- A text is a bare zero if it is a row of zeros with something behind it that has no digit. -/
def IsBareZero (text : String) : Prop :=
  ∃ k rest, text.toList = List.replicate (k + 1) '0' ++ rest ∧ rest ≠ [] ∧
    ∀ c ∈ rest, Text.isDecimalDigit c = false

section Stripping

variable {raw : String}

theorem toList_withoutLeadingZeros {k : Nat} {rest : List Char}
    (hRaw : raw.toList = List.replicate k '0' ++ rest) (hRest : rest.head? ≠ some '0') :
    (withoutLeadingZeros raw).toList = if rest = [] then ['0'] else rest := by
  rw [withoutLeadingZeros, hRaw, dropWhile_zeros hRest]
  cases rest with
  | nil => rfl
  | cons c rest => exact String.toList_ofList

/-- A number is read the same without the zeros at its beginning, unless it is a bare zero. -/
theorem amount?_withoutLeadingZeros {d : Decimal} (hRead : amount? raw.toList = some d)
    (hBare : ¬IsBareZero raw) : amount? (withoutLeadingZeros raw).toList = some d := by
  obtain ⟨k, rest, hRaw, hRest⟩ := exists_zeros raw.toList
  rw [toList_withoutLeadingZeros hRaw hRest]
  by_cases hNone : rest = []
  · rw [hRaw, hNone, List.append_nil] at hRead
    rw [if_pos hNone]
    cases k with
    | zero => cases hRead
    | succ k =>
      rw [← hRead, amount?_replicate]
      exact amount?_replicate 0
  · rw [if_neg hNone]
    cases k with
    | zero => rwa [hRaw] at hRead
    | succ k =>
      rw [hRaw] at hRead
      refine amount?_zeros hRead hRest ?_
      by_contra hDigit
      refine hBare ⟨k, rest, hRaw, hNone, fun c hc => ?_⟩
      exact Bool.eq_false_iff.mpr fun hSome => hDigit ⟨c, hc, hSome⟩

/-- A bare zero is no number without its zeros. -/
theorem amount?_bareZero (hBare : IsBareZero raw) :
    amount? (withoutLeadingZeros raw).toList = none := by
  obtain ⟨k, rest, hRaw, hSome, hNoDigit⟩ := hBare
  have hRest : rest.head? ≠ some '0' := fun h =>
    absurd (hNoDigit '0' (List.mem_of_head? h)) (by decide)
  rw [toList_withoutLeadingZeros hRaw hRest, if_neg hSome, amount?_eq_none]
  intro n hText
  obtain ⟨c, hc⟩ := List.exists_mem_of_ne_nil _ n.digits_ne_nil
  have hDigit := n.isDecimalDigit c hc
  have hMem : c ∈ n.text := n.mem_text_of_digit hc
  rw [hNoDigit c (Text.mem_of_mem_trimmed (hText ▸ hMem))] at hDigit
  cases hDigit

/-- What a bare zero denotes is zero. -/
theorem value_of_bareZero {x : ℚ} (hText : Denotes raw x) (hBare : IsBareZero raw) : x = 0 := by
  obtain ⟨n, hTrimmed, rfl⟩ := hText
  obtain ⟨k, rest, hRaw, -, hNoDigit⟩ := hBare
  have hZeros : ∀ c ∈ n.digits, c = '0' := by
    intro c hc
    have hMem : c ∈ raw.toList := Text.mem_of_mem_trimmed (hTrimmed ▸ n.mem_text_of_digit hc)
    rw [hRaw, List.mem_append] at hMem
    rcases hMem with hZero | hRest
    · exact List.eq_of_mem_replicate hZero
    · have hDigit := n.isDecimalDigit c hc
      rw [hNoDigit c hRest] at hDigit
      cases hDigit
  rw [← n.value_decimal, Decimal.value, Numeral.coefficient_eq_zero hZeros]
  simp

end Stripping

section Chains

variable {c : Context} {raw : String}

/-- A chain that begins with the rendering of a decimal has that as its first step, whatever stands
behind the colon. -/
theorem steps_decimalFormat (p : String) : ∃ parameter rest,
    steps (some ("decimal_format:" ++ p)) = ⟨"decimal_format", parameter⟩ :: rest := by
  obtain ⟨first, more, hPieces⟩ := List.exists_cons_of_ne_nil (Text.pieces_ne_nil '|' p.toList)
  have hFirst : Text.trimmed ("decimal_format:".toList ++ first) =
      "decimal_format:".toList ++ Text.dropEnd Text.isBlank first :=
    Text.trimmed_append (by decide) (by simp [Text.isBlank]) (by simp [Text.isBlank])
  have hBusy : isIdle ("decimal_format:".toList ++ Text.dropEnd Text.isBlank first) = false := by
    obtain ⟨more, hLowered⟩ : ∃ more, Text.lowered
        ("decimal_format:".toList ++ Text.dropEnd Text.isBlank first) = 'd' :: more :=
      ⟨_, rfl⟩
    rw [isIdle, hLowered]
    simp [idleNames, String.ext_iff]
  have hCut : Text.cut ':' ("decimal_format:".toList ++ Text.dropEnd Text.isBlank first) =
      ("decimal_format".toList, some (Text.dropEnd Text.isBlank first)) := by
    have hColon : "decimal_format:".toList = "decimal_format".toList ++ [':'] := by decide
    rw [hColon, List.append_assoc, List.singleton_append]
    exact Text.cut_append (by decide)
  rw [steps, Option.getD_some, stepsOf, String.toList_append,
    Text.pieces_append_of_not_mem (by decide) hPieces, List.map_cons, hFirst, List.filter_cons,
    hBusy]
  simp only [Bool.not_false, if_true, List.map_cons]
  rw [Step.ofChars, hCut]
  exact ⟨_, _, rfl⟩

theorem steps_strip (p : String) : steps (some ("remove_leading_zeros|decimal_format:" ++ p)) =
    ⟨"remove_leading_zeros", none⟩ :: steps (some ("decimal_format:" ++ p)) := by
  have hChain : "remove_leading_zeros|decimal_format:" ++ p =
      "remove_leading_zeros" ++ "|" ++ ("decimal_format:" ++ p) := by
    rw [← String.append_assoc]
    rfl
  have hFirst : steps (some "remove_leading_zeros") = [⟨"remove_leading_zeros", none⟩] := by
    decide +kernel
  rw [hChain, steps_append, hFirst]
  rfl

theorem apply_strip (p : String) :
    apply c raw (some ("remove_leading_zeros|decimal_format:" ++ p)) =
      ((steps (some ("decimal_format:" ++ p))).foldlM (Step.run c raw)
        ⟨withoutLeadingZeros raw, none⟩).map Flow.text := by
  rw [apply, runSteps, steps_strip]
  rfl

theorem renderNumber_congr {op : Operation} {s t : String} {n : Int} {d : Decimal}
    (hs : amount? s.toList = some d) (ht : amount? t.toList = some d) :
    renderNumber op s n = renderNumber op t n := by
  simp only [renderNumber, hs, ht, expecting]

/-- A number is rendered the same without the zeros at its beginning. -/
theorem apply_strip_eq {d : Decimal} (hRead : amount? raw.toList = some d)
    (hStripped : amount? (withoutLeadingZeros raw).toList = some d) (p : String) :
    apply c raw (some ("remove_leading_zeros|decimal_format:" ++ p)) =
      apply c raw (some ("decimal_format:" ++ p)) := by
  obtain ⟨parameter, rest, hSteps⟩ := steps_decimalFormat p
  have hSame : Step.run c raw ⟨withoutLeadingZeros raw, none⟩ ⟨"decimal_format", parameter⟩ =
      Step.run c raw ⟨raw, none⟩ ⟨"decimal_format", parameter⟩ := by
    have hRun : Operation.decimalFormat.run c ⟨withoutLeadingZeros raw, none⟩ parameter =
        Operation.decimalFormat.run c ⟨raw, none⟩ parameter := by
      simp only [Operation.run, renderNumber_congr hStripped hRead]
    have hName : Operation.ofName? "decimal_format" = some .decimalFormat := rfl
    simp only [Step.run, hName, hRun]
  rw [apply_strip, apply, runSteps, hSteps, List.foldlM_cons, List.foldlM_cons, hSame]

theorem apply_strip_ne_ok (hStripped : amount? (withoutLeadingZeros raw).toList = none)
    (p t : String) : apply c raw (some ("remove_leading_zeros|decimal_format:" ++ p)) ≠ .ok t := by
  intro h
  obtain ⟨parameter, rest, hSteps⟩ := steps_decimalFormat p
  rw [apply_strip, hSteps, List.foldlM_cons] at h
  obtain ⟨flow, hFlow, -⟩ := map_eq_ok.mp h
  obtain ⟨next, hNext, -⟩ := bind_eq_ok.mp hFlow
  obtain ⟨op, hOp, -, hRun⟩ := Step.run_eq_ok.mp hNext
  obtain rfl : Operation.decimalFormat = op := Option.some.inj hOp
  obtain ⟨n, -, hRender⟩ := bind_eq_ok.mp hRun
  obtain ⟨d, hRead, -⟩ := bind_eq_ok.mp hRender
  rw [hStripped] at hRead
  cases hRead

end Chains

/-- What becomes of a number whose leading zeros are stripped. -/
structure StripsZeros (c : Context) (raw : String) (x : ℚ) : Prop where
  /-- The number stays the same, and what a chain makes of it when it goes on to render it. -/
  keeps : ¬IsBareZero raw → Denotes (withoutLeadingZeros raw) x ∧
    ∀ p : String, apply c raw (some ("remove_leading_zeros|decimal_format:" ++ p)) =
      apply c raw (some ("decimal_format:" ++ p))
  /-- A bare zero is zero, and no number any more. -/
  bare : IsBareZero raw → x = 0 ∧ (∀ y, ¬Denotes (withoutLeadingZeros raw) y) ∧
    ∀ p t : String, apply c raw (some ("remove_leading_zeros|decimal_format:" ++ p)) ≠ .ok t

/-- The zeros at the beginning of a number can be stripped without changing it, except for bare
zeros. -/
theorem leadingZeros_stripped {c : Context} {raw : String} {x : ℚ} (hText : Denotes raw x) :
    StripsZeros c raw x where
  keeps hBare := by
    obtain ⟨d, hRead, hValue⟩ := denotes_iff.mp hText
    have hStripped := amount?_withoutLeadingZeros hRead hBare
    exact ⟨denotes_iff.mpr ⟨d, hStripped, hValue⟩, apply_strip_eq hRead hStripped⟩
  bare hBare := by
    have hNone := amount?_bareZero hBare
    exact ⟨value_of_bareZero hText hBare, fun _ => not_denotes_of_none hNone,
      apply_strip_ne_ok hNone⟩

/-- A number of which a digit is left keeps its value. -/
theorem leadingZeros_stripped_comma :
    Denotes "007,50 " (15 / 2) ∧ Denotes (withoutLeadingZeros "007,50 ") (15 / 2) ∧
      apply ⟨{}, default⟩ "007,50 " (some ("remove_leading_zeros|decimal_format:" ++ "2")) =
        .ok "7.50" := by
  have hText : Denotes "007,50 " (15 / 2) :=
    denotes_iff.mpr ⟨⟨false, 750, -2⟩, by decide, by norm_num [Decimal.value]⟩
  have hBare : ¬IsBareZero "007,50 " := by
    rintro ⟨k, rest, hRaw, -, hNoDigit⟩
    have hSeven : '7' ∈ "007,50 ".toList := by decide
    rw [hRaw, List.mem_append] at hSeven
    rcases hSeven with hZero | hRest
    · exact absurd (List.eq_of_mem_replicate hZero) (by decide)
    · exact absurd (hNoDigit '7' hRest) (by decide)
  obtain ⟨hStripped, hSame⟩ := (leadingZeros_stripped (c := ⟨{}, default⟩) hText).keeps hBare
  exact ⟨hText, hStripped, (hSame "2").trans (by decide +kernel)⟩

/-- Of a zero with a bare point no number is left. -/
theorem leadingZeros_zeroPoint :
    Denotes "0." 0 ∧ (∀ y, ¬Denotes (withoutLeadingZeros "0.") y) ∧
      apply ⟨{}, default⟩ "0." (some "decimal_format:2") = .ok "0.00" ∧
      ∀ t, apply ⟨{}, default⟩ "0." (some "remove_leading_zeros|decimal_format:2") ≠ .ok t := by
  have hNone : amount? (withoutLeadingZeros "0.").toList = none := by decide +kernel
  have hZero : Denotes "0." 0 :=
    denotes_iff.mpr ⟨⟨false, 0, 0⟩, by decide, by norm_num [Decimal.value]⟩
  exact ⟨hZero, fun _ => not_denotes_of_none hNone, by decide +kernel,
    fun t => apply_strip_ne_ok hNone "2" t⟩

end Chain

end Intake
