import Intake.Proofs.Path.Named
import Intake.XPath.Reader

/-! How paths of names are read: whichever way their steps are written, the expression has one step
on the child axis for each of them, behind a step to everything below where the slashes are double. -/

namespace Intake.XPath

open Intake.Path

theorem skip_of_notSpace {c : Char} {s : List Char} (h : Xml.isSpace c = false) :
    skip (c :: s) = c :: s := by
  simp [skip, Xml.skipSpaces, h]

@[simp] theorem skip_nil : skip [] = [] := rfl

@[simp] theorem skip_slash (s : List Char) : skip ('/' :: s) = '/' :: s :=
  skip_of_notSpace (by decide)

section Operators

variable {rank : Nat} (s : List Char)

theorem operator?_nil (h : rank < 6) : operator? rank [] = none := by
  match rank, h with
  | 0, _ | 1, _ | 2, _ | 3, _ | 4, _ | 5, _ =>
    simp [operator?, operators, Xml.expect?, Text.dropStart?]

theorem operator?_close (h : rank < 6) : operator? rank (']' :: s) = none := by
  match rank, h with
  | 0, _ | 1, _ | 2, _ | 3, _ | 4, _ | 5, _ =>
    simp [operator?, operators, Xml.expect?, Text.dropStart?]

theorem operator?_equal : operator? 2 ('=' :: s) = some (.equal, s) := by
  simp [operator?, operators, Xml.expect?, Text.dropStart?]

theorem operator?_equal_of_lt (hLow : 2 < rank) (h : rank < 6) :
    operator? rank ('=' :: s) = none := by
  match rank, hLow, h with
  | 3, _, _ | 4, _, _ | 5, _, _ =>
    simp [operator?, operators, Xml.expect?, Text.dropStart?]

end Operators

section Ranks

variable {fuel k : Nat} {s r : List Char} {e : Expr}

/-- An operand of a rank without an operator of that rank behind it. -/
theorem readRank_operand (hk : k < 6) (h : readRank (fuel + 1) (k + 1) s = .ok (e, r))
    (hNone : operator? k (skip r) = none) : readRank (fuel + 2) k s = .ok (e, skip r) := by
  rw [readRank, if_neg (by omega), h]
  simp only [readMore, hNone]

/-- Two operands of a rank with an operator of that rank between them. -/
theorem readRank_operator {r' r'' : List Char} {op : Operator} {e' : Expr} (hk : k < 6)
    (hLeft : readRank (fuel + 2) (k + 1) s = .ok (e, r)) (hOp : operator? k (skip r) = some (op, r'))
    (hRight : readRank (fuel + 1) (k + 1) (skip r') = .ok (e', r''))
    (hNone : operator? k (skip r'') = none) :
    readRank (fuel + 3) k s = .ok (.binary op e e', skip r'') := by
  rw [readRank, if_neg (by omega), hLeft]
  simp only [readMore, hOp, hRight, hNone]

/-- A path without any operator behind it. -/
theorem readRank_path {c : Char} {n : Nat} (hk : k + n = 6) (hSpace : Xml.isSpace c = false)
    (hSign : c ≠ '-') (h : readPath (fuel + 1) (c :: s) = .ok (e, r)) (hSkip : skip r = r)
    (hBar : ∀ rest, r ≠ '|' :: rest) (hNone : ∀ j, k ≤ j → j < 6 → operator? j r = none) :
    readRank (fuel + n + 3) k (c :: s) = .ok (e, r) := by
  induction n generalizing k with
  | zero =>
    obtain rfl : k = 6 := by omega
    have hUnion : readUnion (fuel + 1) e r = .ok (e, r) := by
      cases r with
      | nil => rfl
      | cons d rest =>
        have hd : d ≠ '|' := fun hd => hBar rest (hd ▸ rfl)
        simp [readUnion]
    simp [readRank, readSigned, skip_of_notSpace hSpace, hSign, h, hSkip, hUnion]
  | succ n ih =>
    have hNext := ih (k := k + 1) (by omega) fun j hj hj' => hNone j (by omega) hj'
    have hHere := readRank_operand (by omega) hNext (hSkip.symm ▸ hNone k (by omega) (by omega))
    rwa [hSkip] at hHere

end Ranks

/-- What may stand behind a step: nothing, or a slash. -/
def StepEnd (s : List Char) : Prop := s = [] ∨ ∃ rest, s = '/' :: rest

theorem StepEnd.skip {s : List Char} (h : StepEnd s) : skip s = s := by
  rcases h with rfl | ⟨rest, rfl⟩
  · rfl
  · exact skip_slash rest

/-- A character with which a step of a path of names begins. -/
def IsStepStart (c : Char) : Prop := isPlainStart c ∨ c = '*'

section StepStart

variable {c : Char}

theorem IsStepStart.ne (h : IsStepStart c) {d : Char} (hd : isPlainStart d = false)
    (hStar : d ≠ '*') : c ≠ d := by
  rintro rfl
  rcases h with h | h
  · rw [h] at hd
    cases hd
  · exact hStar h

theorem IsStepStart.notSpace (h : IsStepStart c) : Xml.isSpace c = false := by
  rcases h with h | rfl
  · exact isSpace_of_isPlainChar (isPlainChar_of_isPlainStart h)
  · decide

theorem IsStepStart.followsSlash (h : IsStepStart c) (s : List Char) :
    followsSlash (c :: s) = true := by
  rcases h with h | rfl
  · rw [isPlainStart, Bool.or_eq_true] at h
    rcases h with h | h <;> simp [XPath.followsSlash, h]
  · simp [XPath.followsSlash]

end StepStart

/-- A text that is read as a step on the child axis, whatever path it belongs to. -/
structure IsStep (text : List Char) (test : NodeTest) (predicates : List Expr) : Prop where
  start : ∃ c more, text = c :: more ∧ IsStepStart c
  begins : ∀ {rest}, StepEnd rest → beginsStep? (text ++ rest) = some true
  reads : ∀ {fuel start rest}, 20 ≤ fuel → StepEnd rest →
    readStep fuel start (text ++ rest) = .ok (.step start .child test predicates, rest)

/-- A way of writing the steps of a path, and what they are read as. -/
structure StepForm where
  render : NameTest → List Char
  test : NameTest → NodeTest
  predicates : NameTest → List Expr
  isStep : ∀ t, IsStep (render t) (test t) (predicates t)

/-- Where a step behind slashes starts. -/
def afterSlash (e : Expr) : Slash → Expr
  | .single => e
  | .double => e.anywhere

/-- Where the first step of a path starts. -/
def originExpr : Origin → Expr
  | .here => .context
  | .top => .root
  | .anywhere => Expr.root.anywhere

namespace StepForm

variable (form : StepForm)

/-- One step further. -/
def stepExpr (start : Expr) (t : NameTest) : Expr :=
  .step start .child (form.test t) (form.predicates t)

/-- All steps behind slashes further. -/
def tailExpr (start : Expr) (rest : List (Slash × NameTest)) : Expr :=
  rest.foldl (fun e (slash, t) => form.stepExpr (afterSlash e slash) t) start

/-- What a path of names is read as. -/
def expr (p : NamePath) : Expr :=
  form.tailExpr (form.stepExpr (originExpr p.origin) p.first) p.rest

theorem starts (t : NameTest) (rest : List Char) :
    ∃ c more, form.render t ++ rest = c :: more ∧ IsStepStart c := by
  obtain ⟨c, more, hText, hc⟩ := (form.isStep t).start
  exact ⟨c, more ++ rest, by rw [hText]; rfl, hc⟩

theorem tail_eq_slash (slash : Slash) (t : NameTest) (rest : List (Slash × NameTest)) :
    ∃ more, NamePath.tail form.render ((slash, t) :: rest) = '/' :: more := by
  rw [NamePath.tail_cons]
  cases slash <;> exact ⟨_, rfl⟩

theorem stepEnd_tail (rest : List (Slash × NameTest)) :
    StepEnd (NamePath.tail form.render rest) := by
  cases rest with
  | nil => exact .inl rfl
  | cons next rest =>
    obtain ⟨slash, t⟩ := next
    exact .inr (form.tail_eq_slash slash t rest)

/-- The slashes in front of a step, if there are any, and where the step starts then. -/
inductive Lead (start : Expr) : List Char → Expr → Prop
  | none : Lead start [] start
  | slash (slash : Slash) : Lead start slash.text (afterSlash start slash)

section Lead

variable {fuel : Nat} {start start' e : Expr} {lead s : List Char}

/-- The slashes in front of a step only tell where it starts. -/
theorem readSteps_lead (hLead : Lead start lead start')
    (hStart : ∃ c more, s = c :: more ∧ IsStepStart c) :
    readSteps (fuel + 1) start (lead ++ s) = readSteps (fuel + 1) start' s := by
  obtain ⟨c, more, rfl, hc⟩ := hStart
  have hSlash : c ≠ '/' := hc.ne (by decide) (by decide)
  have hSkip : skip (c :: more) = c :: more := skip_of_notSpace hc.notSpace
  cases hLead with
  | none => rfl
  | slash slash =>
    cases slash with
    | single => simp [readSteps, Slash.text, hSkip, hSlash, afterSlash]
    | double => simp [readSteps, Slash.text, hSkip, hSlash, afterSlash]

/-- The last step of a path. -/
theorem readSteps_last (hStart : ∃ c more, s = c :: more ∧ IsStepStart c)
    (hStep : readStep fuel start s = .ok (e, [])) :
    readSteps (fuel + 1) start s = .ok (e, []) := by
  obtain ⟨c, more, rfl, hc⟩ := hStart
  have hSlash : c ≠ '/' := hc.ne (by decide) (by decide)
  have hSkip : skip (c :: more) = c :: more := skip_of_notSpace hc.notSpace
  simp [readSteps, hSkip, hSlash, hStep]

/-- A step with slashes behind it. -/
theorem readSteps_slash {rest : List Char} (hStart : ∃ c more, s = c :: more ∧ IsStepStart c)
    (hStep : readStep fuel start s = .ok (e, '/' :: rest)) :
    readSteps (fuel + 1) start s = readSteps fuel e ('/' :: rest) := by
  obtain ⟨c, more, rfl, hc⟩ := hStart
  have hSlash : c ≠ '/' := hc.ne (by decide) (by decide)
  have hSkip : skip (c :: more) = c :: more := skip_of_notSpace hc.notSpace
  simp [readSteps, hSkip, hSlash, hStep]

end Lead

/-- The steps of a path are read one after the other, to the end. -/
theorem readSteps_tail {fuel : Nat} {start start' : Expr} {lead : List Char} (t : NameTest)
    (rest : List (Slash × NameTest)) (hLead : Lead start lead start')
    (hFuel : 20 + rest.length < fuel) :
    readSteps fuel start (lead ++ (form.render t ++ NamePath.tail form.render rest)) =
      .ok (form.tailExpr (form.stepExpr start' t) rest, []) := by
  induction rest generalizing fuel start start' lead t with
  | nil =>
    obtain ⟨fuel, rfl⟩ : ∃ k, fuel = k + 1 := ⟨fuel - 1, by omega⟩
    have hRoom : 20 ≤ fuel := by omega
    rw [readSteps_lead hLead (form.starts t _)]
    exact readSteps_last (form.starts t _) ((form.isStep t).reads hRoom (form.stepEnd_tail []))
  | cons next rest ih =>
    obtain ⟨fuel, rfl⟩ : ∃ k, fuel = k + 1 := ⟨fuel - 1, by omega⟩
    obtain ⟨slash, u⟩ := next
    rw [List.length_cons] at hFuel
    have hRoom : 20 ≤ fuel := by omega
    have hNext : readSteps fuel (form.stepExpr start' t)
        (slash.text ++ (form.render u ++ NamePath.tail form.render rest)) = _ :=
      ih u (.slash slash) (by omega)
    rw [← NamePath.tail_cons] at hNext
    have hEnd := form.stepEnd_tail ((slash, u) :: rest)
    obtain ⟨more, hMore⟩ := form.tail_eq_slash slash u rest
    rw [hMore] at hEnd hNext ⊢
    rw [readSteps_lead hLead (form.starts t _),
      readSteps_slash (form.starts t _) ((form.isStep t).reads hRoom hEnd)]
    exact hNext

/-- The steps of a path at its beginning. -/
theorem readSteps_origin {fuel : Nat} (start : Expr) (p : NamePath)
    (hFuel : 20 + p.rest.length < fuel) :
    readSteps fuel start (form.render p.first ++ NamePath.tail form.render p.rest) =
      .ok (form.tailExpr (form.stepExpr start p.first) p.rest, []) :=
  form.readSteps_tail p.first p.rest .none hFuel

theorem readPath_render {fuel : Nat} (p : NamePath) (hFuel : 22 + p.rest.length < fuel) :
    readPath fuel (p.render form.render) = .ok (form.expr p, []) := by
  obtain ⟨fuel, rfl⟩ : ∃ k, fuel = k + 2 := ⟨fuel - 2, by omega⟩
  obtain ⟨c, more, hText, hc⟩ := form.starts p.first (NamePath.tail form.render p.rest)
  have hSlash : c ≠ '/' := hc.ne (by decide) (by decide)
  have hSkip : skip (c :: more) = c :: more := skip_of_notSpace hc.notSpace
  have hFollows : followsSlash (c :: more) = true := hc.followsSlash more
  have hBegins := (form.isStep p.first).begins (form.stepEnd_tail p.rest)
  rw [hText] at hBegins
  unfold NamePath.render expr
  cases p.origin with
  | here =>
    have hSteps : readSteps (fuel + 1) Expr.context (c :: more) = _ :=
      hText ▸ form.readSteps_origin .context p (by omega)
    simp [Origin.text, originExpr, readPath, hText, hSkip, hBegins, hSlash, hSteps]
  | top =>
    have hSteps : readSteps fuel Expr.root (c :: more) = _ :=
      hText ▸ form.readSteps_origin .root p (by omega)
    simp [Origin.text, originExpr, readPath, readAbsolute, beginsStep?, hText, hSkip, hSlash,
      hFollows, hSteps]
  | anywhere =>
    have hSteps : readSteps fuel Expr.root.anywhere (c :: more) = _ :=
      hText ▸ form.readSteps_origin Expr.root.anywhere p (by omega)
    simp [Origin.text, originExpr, readPath, readAbsolute, beginsStep?, hText, hSkip, hSteps]

theorem length_tail (rest : List (Slash × NameTest)) :
    rest.length ≤ (NamePath.tail form.render rest).length := by
  induction rest with
  | nil => simp
  | cons next rest ih =>
    obtain ⟨slash, t⟩ := next
    rw [NamePath.tail_cons]
    cases slash <;> simp [Slash.text] <;> omega

theorem render_starts (p : NamePath) : ∃ c more,
    p.render form.render = c :: more ∧ Xml.isSpace c = false ∧ c ≠ '-' := by
  unfold NamePath.render
  cases p.origin with
  | here =>
    obtain ⟨c, more, hText, hc⟩ := form.starts p.first (NamePath.tail form.render p.rest)
    exact ⟨c, more, hText, hc.notSpace, hc.ne (by decide) (by decide)⟩
  | top => exact ⟨'/', _, rfl, by decide, by decide⟩
  | anywhere => exact ⟨'/', _, rfl, by decide, by decide⟩

/-- A path of names is read as its steps, whichever way they are written. -/
theorem read_render (p : NamePath) :
    Expr.read (String.ofList (p.render form.render)) = .ok (form.expr p) := by
  obtain ⟨c, more, hText, hSpace, hDash⟩ := form.render_starts p
  have hLength : p.rest.length ≤ more.length := by
    have hTail := form.length_tail p.rest
    obtain ⟨d, text, hFirst, -⟩ := (form.isStep p.first).start
    have hAll := congrArg List.length hText
    simp only [NamePath.render, List.length_append, hFirst, List.length_cons] at hAll
    omega
  have hPath : readPath (16 * more.length + 40) (c :: more) = .ok (form.expr p, []) := by
    rw [← hText]
    exact form.readPath_render p (by omega)
  have hRank := readRank_path (k := 0) (n := 6) rfl hSpace hDash hPath rfl (by simp)
    fun j _ hj => operator?_nil hj
  rw [Expr.read, String.toList_ofList, hText, skip_of_notSpace hSpace]
  have hFuel : 16 * (c :: more).length + 32 = 16 * more.length + 39 + 6 + 3 := by
    rw [List.length_cons]
    omega
  rw [hFuel, hRank]

end StepForm

end Intake.XPath
