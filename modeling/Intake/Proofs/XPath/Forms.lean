import Intake.Proofs.XPath.Reading

/-! The two ways in which the steps of a path of names are written: as names, with or without
qualifiers, and as comparisons of local names. -/

namespace Intake.XPath

open Intake.Path

theorem StepEnd.head {s : List Char} (h : StepEnd s) : ∀ c ∈ s.head?, c = '/' := by
  rcases h with rfl | ⟨rest, rfl⟩ <;> simp

theorem StepEnd.stop {s : List Char} {p : Char → Bool} (h : StepEnd s) (hp : p '/' = false) :
    ∀ c ∈ s.head?, p c = false := fun c hc => h.head c hc ▸ hp

theorem readPredicates_end {fuel : Nat} {taken : List Expr} {s : List Char} (h : StepEnd s) :
    readPredicates (fuel + 1) taken s = .ok (taken.reverse, s) := by
  rcases h with rfl | ⟨rest, rfl⟩ <;> simp [readPredicates]

section Loose

variable {c : Char} {more rest : List Char}

theorem looseName?_plain (hc : isPlainStart c) (hMore : ∀ d ∈ more, Xml.isLooseNameChar d)
    (hRest : ∀ d ∈ rest.head?, Xml.isLooseNameChar d = false) :
    Xml.looseName? (c :: (more ++ rest)) = some (String.ofList (c :: more), rest) := by
  rw [Xml.looseName?, if_pos (by simp [isNameStart_of_isPlainStart hc]),
    Text.takeWhile_append_of_stop hMore hRest, Text.dropWhile_append_of_stop hMore hRest]

/-- What begins with a name is a step, unless the name is that of a function. -/
theorem beginsStep?_plain (hc : isPlainStart c) (hMore : ∀ d ∈ more, Xml.isLooseNameChar d)
    (hRest : ∀ d ∈ rest.head?, Xml.isLooseNameChar d = false) :
    beginsStep? (c :: (more ++ rest)) =
      if (skip rest).head? = some '(' then
        some (nodeKinds.contains (String.ofList (c :: more)) ||
          (Text.cut ':' (c :: more)).2.any (·.head? == some ':'))
      else some true := by
  have hNe : ∀ d, isPlainStart d = false → c ≠ d := by
    rintro d hd rfl
    rw [hc] at hd
    cases hd
  have hDigit : c.isDigit = false := by
    rw [isPlainStart_iff] at hc
    simp only [Char.isDigit, Bool.and_eq_false_iff, decide_eq_false_iff_not, ge_iff_le,
      UInt32.le_iff_toNat_le]
    change ¬48 ≤ c.toNat ∨ ¬c.toNat ≤ 57
    omega
  simp [beginsStep?, looseName?_plain hc hMore hRest, hNe '$' (by decide), hNe '(' (by decide),
    hDigit, hNe '\'' (by decide), hNe '"' (by decide), hNe '.' (by decide), hNe '*' (by decide),
    hNe '/' (by decide), hNe '@' (by decide)]

end Loose

/-- A step is read from its axis and test, and its predicates. -/
theorem readStep_of_test {fuel : Nat} {start : Expr} {c : Char} {more s rest : List Char}
    {axis : Axis} {test : NodeTest} {predicates : List Expr} (hc : IsStepStart c)
    (hTest : axisAndTest (c :: more) = .ok (axis, test, s))
    (hPredicates : readPredicates fuel [] (skip s) = .ok (predicates, rest)) :
    readStep (fuel + 1) start (c :: more) = .ok (.step start axis test predicates, rest) := by
  have hPoint : c ≠ '.' := hc.ne (by decide) (by decide)
  simp [readStep, skip_of_notSpace hc.notSpace, hPoint, hTest, hPredicates]

section Names

variable (t : NameTest)

theorem written_start : ∃ c more, t.written = c :: more ∧ isPlainStart c := by
  unfold NameTest.written
  split
  · rename_i q hQualifier
    exact ⟨q.first, _, rfl, q.isStart⟩
  · exact ⟨t.name.first, _, rfl, t.name.isStart⟩

/-- Behind a name no test on a kind of nodes and no qualified name begins. -/
theorem namedTest_end {name : String} {rest : List Char} (h : StepEnd rest) :
    namedTest name rest = .ok (.named none name, rest) := by
  rcases h with rfl | ⟨rest, rfl⟩ <;> simp [namedTest]

theorem namedTest_qualified {q : String} {n : PlainName} {rest : List Char} (h : StepEnd rest) :
    namedTest q (':' :: n.chars ++ rest) = .ok (.named (some q) n.text, rest) := by
  have hStar : n.first ≠ '*' :=
    ne_of_class (isPlainChar_of_isPlainStart n.isStart) (by decide)
  have hName := n.plainName?_append (h.stop (p := Xml.isNameChar) (by decide))
  have hColon : ∀ s, skip (':' :: s) = ':' :: s := fun s => skip_of_notSpace (by decide)
  rw [PlainName.chars, List.cons_append] at hName
  simp [namedTest, hColon, PlainName.chars, hStar, hName]

/-- A name without two colons behind it does not call an axis. -/
theorem axisAndTest_name {c : Char} {more s : List Char} {name : String} (hStar : c ≠ '*')
    (hAt : c ≠ '@') (hName : Xml.plainName? (c :: more) = some (name, s))
    (hAxis : ∀ s', s ≠ ':' :: ':' :: s') (hSkip : skip s = s) :
    axisAndTest (c :: more) = (namedTest name s).map fun (test, s) => (.child, test, s) := by
  unfold axisAndTest
  split
  · simp_all
  · simp_all
  · rw [hName]
    dsimp only
    rw [hSkip]
    split
    · exact absurd rfl (hAxis _)
    · rfl
    · rfl

/-- A name that may be qualified is a test on the child axis, also if its qualifier is the name of an
axis. -/
theorem axisAndTest_written {rest : List Char} (h : StepEnd rest) :
    axisAndTest (t.written ++ rest) =
      .ok (.child, .named (t.qualifier.map PlainName.text) t.name.text, rest) := by
  have hNe : ∀ (n : PlainName) {d}, isPlainChar d = false → n.first ≠ d :=
    fun n _ hd => ne_of_class (isPlainChar_of_isPlainStart n.isStart) hd
  unfold NameTest.written
  cases t.qualifier with
  | none =>
    have hName := t.name.plainName?_append (h.stop (p := Xml.isNameChar) (by decide))
    have hAxis : ∀ s', rest ≠ ':' :: ':' :: s' := by
      rcases h with rfl | ⟨rest, rfl⟩ <;> simp
    dsimp only
    rw [PlainName.chars, List.cons_append] at hName ⊢
    rw [axisAndTest_name (hNe t.name (by decide)) (hNe t.name (by decide)) hName hAxis h.skip,
      namedTest_end h]
    rfl
  | some q =>
    have hColon : ∀ d ∈ (':' :: t.name.chars ++ rest).head?, Xml.isNameChar d = false := by
      simp only [List.cons_append, List.head?_cons, Option.mem_some_iff, forall_eq']
      decide
    have hName := q.plainName?_append hColon
    have hAxis : ∀ s', ':' :: t.name.chars ++ rest ≠ ':' :: ':' :: s' := by
      intro s' hSame
      exact hNe t.name (by decide) (List.cons.inj (List.cons.inj hSame).2).1
    dsimp only
    rw [List.append_assoc]
    rw [PlainName.chars, List.cons_append] at hName ⊢
    rw [axisAndTest_name (hNe q (by decide)) (hNe q (by decide)) hName hAxis
      (skip_of_notSpace (by decide)), namedTest_qualified h]
    rfl

theorem isLooseNameChar_of_mem {t : NameTest} {c : Char} (h : c ∈ t.written) :
    Xml.isLooseNameChar c := by
  rcases NameTest.mem_written h with rfl | h
  · rfl
  · simp [Xml.isLooseNameChar, isNameChar_of_isPlainChar h]

theorem beginsStep?_written {rest : List Char} (h : StepEnd rest) :
    beginsStep? (t.written ++ rest) = some true := by
  obtain ⟨c, more, hText, hc⟩ := written_start t
  have hMore : ∀ d ∈ more, Xml.isLooseNameChar d :=
    fun d hd => isLooseNameChar_of_mem (hText ▸ List.mem_cons_of_mem c hd)
  have hNoCall : (skip rest).head? ≠ some '(' := by
    rcases h with rfl | ⟨rest, rfl⟩ <;> simp
  rw [hText, List.cons_append]
  rw [beginsStep?_plain hc hMore (h.stop (by decide)), if_neg hNoCall]

/-- Steps that are names, with or without qualifiers. -/
def qualifiedForm : StepForm where
  render := NameTest.written
  test t := .named (t.qualifier.map PlainName.text) t.name.text
  predicates _ := []
  isStep t := by
    obtain ⟨c, more, hText, hc⟩ := written_start t
    refine ⟨⟨c, more, hText, .inl hc⟩, beginsStep?_written t, fun hFuel hEnd => ?_⟩
    rename_i fuel start rest
    obtain ⟨fuel, rfl⟩ : ∃ k, fuel = k + 2 := ⟨fuel - 2, by omega⟩
    have hTest := axisAndTest_written t hEnd
    rw [hText, List.cons_append] at hTest ⊢
    exact readStep_of_test (.inl hc) hTest (hEnd.skip.symm ▸ readPredicates_end hEnd)

end Names

section LocalNames

/-- The comparison of a local name with a text. -/
def localNameIs (name : String) : Expr := .binary .equal (.call none "local-name" []) (.literal name)

/-- The name of the function that gives local names. -/
def localNameFunction : PlainName :=
  ⟨'l', ['o', 'c', 'a', 'l', '-', 'n', 'a', 'm', 'e'], rfl, List.all_eq_true.mp (by decide)⟩

/-- The text of a comparison behind its opening bracket. -/
def comparison (name rest : List Char) : List Char :=
  localNameFunction.chars ++ '(' :: ')' :: '=' :: '\'' :: (name ++ '\'' :: ']' :: rest)

theorem comparison_begins : "*[local-name()='".toList =
    '*' :: '[' :: (localNameFunction.chars ++ ['(', ')', '=', '\'']) := by decide

theorem comparison_ends : "']".toList = ['\'', ']'] := by decide

theorem byLocalName_append (t : NameTest) (rest : List Char) :
    t.byLocalName ++ rest = '*' :: '[' :: comparison t.name.chars rest := by
  unfold NameTest.byLocalName comparison
  rw [comparison_begins, comparison_ends]
  simp only [List.append_assoc, List.cons_append, List.nil_append]

variable {fuel : Nat}

theorem localNameFunction_isFunction :
    (nodeKinds.contains localNameFunction.text ||
      (Text.cut ':' localNameFunction.chars).2.any (·.head? == some ':')) = false := by
  decide

/-- The call of the function. -/
theorem readPath_call (s : List Char) :
    readPath (fuel + 3) (localNameFunction.chars ++ '(' :: ')' :: '=' :: s) =
      .ok (.call none "local-name" [], '=' :: s) := by
  have hLoose : ∀ d ∈ ('(' :: ')' :: '=' :: s).head?, Xml.isLooseNameChar d = false := by
    simp only [List.head?_cons, Option.mem_some_iff, forall_eq']
    decide
  have hBegins : beginsStep? (localNameFunction.chars ++ '(' :: ')' :: '=' :: s) = some false :=
    (beginsStep?_plain localNameFunction.isStart
      (fun d hd => by
        simp [Xml.isLooseNameChar, isNameChar_of_isPlainChar (localNameFunction.arePlain d hd)])
      hLoose).trans (congrArg some localNameFunction_isFunction)
  have hNumber : unsignedNumber? (localNameFunction.chars ++ '(' :: ')' :: '=' :: s) = none := rfl
  have hName : Xml.writtenName? (localNameFunction.chars ++ '(' :: ')' :: '=' :: s) =
      some (⟨none, "local-name"⟩, '(' :: ')' :: '=' :: s) := rfl
  have hPrimary : readPrimary (fuel + 2) (localNameFunction.chars ++ '(' :: ')' :: '=' :: s) =
      .ok (.call none "local-name" [], '=' :: s) := by
    have hSkip : ∀ s, skip ('(' :: s) = '(' :: s := fun s => skip_of_notSpace (by decide)
    have hClose : ∀ s, skip (')' :: s) = ')' :: s := fun s => skip_of_notSpace (by decide)
    have hText : localNameFunction.chars ++ '(' :: ')' :: '=' :: s =
      'l' :: (localNameFunction.rest ++ '(' :: ')' :: '=' :: s) := rfl
    rw [hText] at hNumber hName ⊢
    simp [readPrimary, hNumber, hName, hSkip, hClose, readArguments]
  have hLetter : skip (localNameFunction.chars ++ '(' :: ')' :: '=' :: s) =
      localNameFunction.chars ++ '(' :: ')' :: '=' :: s := skip_of_notSpace (by decide)
  have hEqual : skip ('=' :: s) = '=' :: s := skip_of_notSpace (by decide)
  rw [readPath]
  simp only [hLetter, hBegins, hPrimary, hEqual, readFilters, readPredicates]
  rfl

/-- The text that the local name is compared with. -/
theorem readPath_literal {name : List Char} (hName : ∀ c ∈ name, c ≠ '\'') (rest : List Char) :
    readPath (fuel + 3) ('\'' :: (name ++ '\'' :: ']' :: rest)) =
      .ok (.literal (String.ofList name), ']' :: rest) := by
  have hAll : ∀ c ∈ name, (c != '\'') = true := fun c hc => by simpa using hName c hc
  have hTake := Text.takeWhile_append_of_stop hAll (t := '\'' :: ']' :: rest) (by simp)
  have hDrop := Text.dropWhile_append_of_stop hAll (t := '\'' :: ']' :: rest) (by simp)
  have hMark : skip ('\'' :: (name ++ '\'' :: ']' :: rest)) = _ := skip_of_notSpace (by decide)
  have hClose : skip (']' :: rest) = _ := skip_of_notSpace (by decide)
  simp [readPath, hMark, beginsStep?, readPrimary, literal, hTake, hDrop, Except.map, hClose,
    readFilters, readPredicates]

/-- A comparison is read up to the bracket that closes it. -/
theorem readRank_comparison (n : PlainName) (rest : List Char) :
    readRank (fuel + 12) 0 (comparison n.chars rest) =
      .ok (localNameIs n.text, ']' :: rest) := by
  have hClose : skip (']' :: rest) = ']' :: rest := skip_of_notSpace (by decide)
  have hEqual : ∀ s, skip ('=' :: s) = '=' :: s := fun s => skip_of_notSpace (by decide)
  have hMark : ∀ s, skip ('\'' :: s) = '\'' :: s := fun s => skip_of_notSpace (by decide)
  have hLeft : readRank (fuel + 9) 3 (comparison n.chars rest) = .ok (.call none "local-name" [],
      '=' :: '\'' :: (n.chars ++ '\'' :: ']' :: rest)) :=
    readRank_path (n := 3) rfl (by decide) (by decide) (readPath_call _) (hEqual _) (by simp)
      fun j hj hj' => operator?_equal_of_lt _ hj hj'
  have hRight : readRank (fuel + 8) 3 ('\'' :: (n.chars ++ '\'' :: ']' :: rest)) =
      .ok (.literal n.text, ']' :: rest) :=
    readRank_path (n := 3) rfl (by decide) (by decide)
      (readPath_literal (fun c hc => ne_of_class (n.isPlainChar_of_mem hc) (by decide)) rest)
      hClose (by simp) fun j _ hj' => operator?_close rest hj'
  have hEquation := readRank_operator (k := 2) (by decide) hLeft
    ((hEqual _).symm ▸ operator?_equal _) ((hMark _).symm ▸ hRight)
    (hClose.symm ▸ operator?_close rest (by decide))
  rw [hClose] at hEquation
  have hOne := readRank_operand (k := 1) (by decide) hEquation
    (hClose.symm ▸ operator?_close rest (by decide))
  rw [hClose] at hOne
  have hZero := readRank_operand (k := 0) (by decide) hOne
    (hClose.symm ▸ operator?_close rest (by decide))
  rwa [hClose] at hZero

/-- Steps that are comparisons of local names. -/
def localForm : StepForm where
  render := NameTest.byLocalName
  test _ := .any none
  predicates t := [localNameIs t.name.text]
  isStep t := by
    refine ⟨?_, fun hEnd => ?_, fun hFuel hEnd => ?_⟩
    · exact ⟨'*', _, (List.append_nil _).symm.trans (byLocalName_append t []), .inr rfl⟩
    · rw [byLocalName_append]
      rfl
    · rename_i fuel start rest
      obtain ⟨fuel, rfl⟩ : ∃ k, fuel = k + 14 := ⟨fuel - 14, by omega⟩
      rw [byLocalName_append]
      refine readStep_of_test (.inr rfl) rfl ?_
      have hOpen : skip ('[' :: comparison t.name.chars rest) = '[' :: comparison t.name.chars rest :=
        skip_of_notSpace (by decide)
      have hInside : skip (comparison t.name.chars rest) = comparison t.name.chars rest :=
        skip_of_notSpace (by decide)
      rw [hOpen, readPredicates]
      simp only [hInside, readRank_comparison, hEnd.skip, readPredicates_end hEnd]
      rfl

end LocalNames

end Intake.XPath
