import Intake.Calendar.Written
import Intake.Proofs.Results

/-! What readers of moments can come to besides finding none: a moment outside the years 1 to 9999,
a distance from universal time of a day or more, and a number that cannot be divided. -/

namespace Intake.Calendar

namespace Loose

/-- Reading stops at no fault but that of a number that cannot be divided. -/
def Divides {α : Type} (x : Attempt α) : Prop :=
  ∀ fault, x = .error (.fault fault) → fault = .indivisible

section Attempts

variable {α β : Type}

theorem divides_ok (a : α) : Divides (.ok a) := fun _ h => nomatch h

theorem divides_pure (a : α) : Divides (pure a : Attempt α) := fun _ h => nomatch h

theorem divides_unreadable : Divides (.error .unreadable : Attempt α) :=
  fun _ h => nomatch h

theorem divides_required (a : Option α) : Divides (required a) := by
  cases a with
  | none => exact divides_unreadable
  | some a => exact divides_ok a

theorem Divides.bind {x : Attempt α} {f : α → Attempt β} (hx : Divides x)
    (hf : ∀ a, Divides (f a)) : Divides (x >>= f) := by
  intro fault h
  rcases bind_eq_error.mp h with h | ⟨a, -, h⟩
  · exact hx fault h
  · exact hf a fault h

theorem Divides.ite {p : Prop} [Decidable p] {x y : Attempt α} (hx : Divides x)
    (hy : Divides y) : Divides (if p then x else y) := by
  split
  · exact hx
  · exact hy

theorem divides_map {x : Attempt α} {f : α → β} (hx : Divides x) : Divides (x.map f) :=
  fun fault h => hx fault (map_eq_error.mp h)

end Attempts

theorem divides_tokenAt (tokens : Array Token) (i : Nat) : Divides (tokenAt tokens i) :=
  divides_required _

theorem divides_fractionOf (value : Number.Decimal) : Divides (fractionOf value) := by
  intro fault h
  unfold fractionOf at h
  split at h <;> cases h
  rfl

theorem divides_minutesAndSeconds (value : Number.Decimal) : Divides (minutesAndSeconds value) :=
  (divides_fractionOf value).bind fun _ => divides_pure _

theorem divides_secondsAndMicros (t : Token) : Divides (secondsAndMicros t) := by
  unfold secondsAndMicros
  split
  · exact (divides_required _).bind fun _ => divides_pure _
  · exact (divides_required _).bind fun _ => (divides_required _).bind fun _ => divides_pure _
  · exact divides_unreadable

theorem divides_withUnit (f : Findings) (t : Token) (value : Number.Decimal)
    (unit : Option TimeUnit) : Divides (withUnit f t value unit) := by
  unfold withUnit
  split
  · exact (divides_minutesAndSeconds value).bind fun _ => divides_pure _
  · exact (divides_minutesAndSeconds value).bind fun _ => divides_pure _
  · exact (divides_secondsAndMicros t).bind fun _ => divides_pure _
  · exact divides_ok f

theorem divides_clockTime (tokens : Array Token) (i : Nat) (f : Findings)
    (value : Number.Decimal) : Divides (clockTime tokens i f value) := by
  unfold clockTime
  refine (divides_tokenAt tokens _).bind fun _ => (divides_required _).bind fun _ =>
    (divides_minutesAndSeconds _).bind fun _ => ?_
  dsimp only
  split
  · exact (divides_tokenAt tokens _).bind fun _ =>
      (divides_secondsAndMicros _).bind fun _ => divides_pure _
  · exact divides_pure _

theorem divides_separatedDay (tokens : Array Token) (i : Nat) (f : Findings)
    (t separator : Token) : Divides (separatedDay tokens i f t separator) := by
  unfold separatedDay
  refine (divides_required _).bind fun _ => ?_
  split
  · exact divides_pure _
  split
  · exact divides_pure _
  split
  · dsimp only
    split <;> exact (divides_required _).bind fun _ => (divides_tokenAt tokens _).bind fun _ =>
      (divides_required _).bind fun _ => divides_pure _
  · dsimp only
    split <;> exact (divides_required _).bind fun _ => divides_pure _

theorem divides_number (tokens : Array Token) (i : Nat) (f : Findings) (t : Token) :
    Divides (number tokens i f t) := by
  unfold number
  refine (divides_required _).bind fun value => ?_
  dsimp only
  split
  · refine (divides_required _).bind fun _ => ?_
    split
    · exact (divides_map (divides_required _)).bind fun _ => divides_pure _
    · exact (divides_ok _).bind fun _ => divides_pure _
  split
  · split
    · exact (divides_required _).bind fun _ => divides_pure _
    · exact (divides_required _).bind fun _ => (divides_required _).bind fun _ =>
        (divides_secondsAndMicros _).bind fun _ => divides_pure _
  split
  · refine (divides_required _).bind fun _ => ?_
    split
    · exact divides_pure _
    · refine (divides_required _).bind fun _ => (divides_required _).bind fun _ => ?_
      split
      · exact (divides_map (divides_required _)).bind fun _ => divides_pure _
      · exact (divides_ok _).bind fun _ => divides_pure _
  split
  · exact (divides_withUnit f t value _).bind fun _ => divides_pure _
  split
  · exact divides_clockTime tokens i f value
  split
  · exact divides_separatedDay tokens i f t _
  split
  · split
    · exact divides_pure _
    · exact (divides_required _).bind fun _ => divides_pure _
  split
  · exact divides_pure _
  · refine (divides_required _).bind fun _ => ?_
    split
    · exact (divides_required _).bind fun _ => divides_pure _
    · exact divides_unreadable

theorem divides_namedMonth (now : Nat) (tokens : Array Token) (i : Nat) (f : Findings)
    (month : Nat) : Divides (namedMonth now tokens i f month) := by
  unfold namedMonth
  refine (divides_required _).bind fun _ => ?_
  dsimp only
  split
  · refine (divides_tokenAt tokens _).bind fun _ => (divides_required _).bind fun _ => ?_
    split
    · exact (divides_tokenAt tokens _).bind fun _ =>
        (divides_required _).bind fun _ => divides_pure _
    · exact divides_pure _
  split
  · split
    · exact (divides_required _).bind fun _ => divides_pure _
    · exact divides_pure _
  · exact divides_pure _

theorem divides_signedOffset (tokens : Array Token) (i : Nat) (f : Findings) (negative : Bool) :
    Divides (signedOffset tokens i f negative) := by
  unfold signedOffset
  refine (divides_tokenAt tokens _).bind fun t => .ite ?_ (.ite ?_ (.ite ?_ divides_unreadable))
  · exact (divides_required _).bind fun _ => (divides_required _).bind fun _ =>
      (divides_pure _).bind fun _ => .ite (divides_pure _) (divides_pure _)
  · exact (divides_required _).bind fun _ => (divides_tokenAt tokens _).bind fun _ =>
      (divides_required _).bind fun _ =>
        (divides_pure _).bind fun _ => .ite (divides_pure _) (divides_pure _)
  · exact (divides_required _).bind fun _ =>
      (divides_pure _).bind fun _ => .ite (divides_pure _) (divides_pure _)

/-- However many tokens are read, reading stops at no other fault. -/
theorem divides_readFrom (now fuel : Nat) (tokens : Array Token) (i : Nat) (f : Findings) :
    Divides (readFrom now fuel tokens i f) := by
  induction fuel generalizing tokens i f with
  | zero => exact divides_ok f
  | succ fuel ih =>
    rw [readFrom]
    split
    · exact divides_ok f
    split
    · exact (divides_number tokens i f _).bind fun _ => ih _ _ _
    split
    · exact ih _ _ _
    · exact (divides_namedMonth now tokens i f _).bind fun _ => ih _ _ _
    · split
      · exact divides_unreadable
      split
      · exact divides_unreadable
      · exact ih _ _ _
    · split
      · split
        · split <;> exact ih _ _ _
        · exact ih _ _ _
      split
      · exact (divides_signedOffset tokens i f _).bind fun _ => ih _ _ _
      split
      · exact ih _ _ _
      · exact divides_unreadable

theorem read_fault {now : Date} {s : List Char} {fault : Fault} (h : read now s = .error fault) :
    fault = .indivisible := by
  revert h
  fun_cases read now s with
  | case2 _ _ hStop =>
    intro h
    exact divides_readFrom _ _ _ _ _ fault (Except.error.inj h ▸ hStop)
  | _ => exact nofun

end Loose

namespace Iso

theorem weekDay_fault {year week day : Int} {fault : Fault}
    (h : weekDay year week day = .error fault) : fault = .outOfRange := by
  revert h
  fun_cases weekDay year week day with
  | case4 => exact fun h => (Except.error.inj h).symm
  | _ => exact nofun

theorem day_fault {s : List Char} {fault : Fault} (h : day s = .error fault) :
    fault = .outOfRange := by
  revert h
  fun_cases day s with
  | case1 => exact nofun
  | case2 =>
    fun_cases otherDay s with
    | case4 => exact fun h => weekDay_fault (map_eq_error.mp h)
    | case7 => exact fun h => weekDay_fault (map_eq_error.mp h)
    | _ => exact nofun

theorem read_fault {s : List Char} {fault : Fault} (h : read s = .error fault) :
    fault = .outOfRange := by
  revert h
  fun_cases read s with
  | case2 _ _ hDay =>
    intro h
    exact day_fault (Except.error.inj h ▸ hDay)
  | case6 => exact fun h => (Except.error.inj h).symm
  | _ => exact nofun

end Iso

/-- What a text that no layout reads is taken for. -/
inductive FreeReading (now : Date) (s : List Char) (r : Reading) : Prop
  | international (h : Iso.read s = .ok (some r))
  | loose (hIso : Iso.read s = .ok none) (h : Loose.read now s = .ok (some r))

/-- Why a text that no layout reads cannot be told as a moment. -/
inductive Untellable (now : Date) (s : List Char) : Fault → Prop
  | international {fault : Fault} (h : Iso.read s = .error fault) : Untellable now s fault
  | loose {fault : Fault} (hIso : Iso.read s = .ok none) (h : Loose.read now s = .error fault) :
      Untellable now s fault
  | far {r : Reading} {n : Int} (hRead : FreeReading now s r) (hOffset : r.offset = some n)
      (hFar : DateTime.dayLength ≤ n.natAbs) : Untellable now s .offsetTooLarge
  | outside {r : Reading} {n : Int} (hRead : FreeReading now s r) (hOffset : r.offset = some n)
      (hNear : n.natAbs < DateTime.dayLength) (hOutside : r.moment.add? (-n) = none) :
      Untellable now s .outOfRange

section Moments

variable {now : Date} {fault : Fault}

theorem Untellable.kind {s : List Char} (h : Untellable now s fault) :
    fault ∈ [.outOfRange, .offsetTooLarge, .indivisible] := by
  cases h with
  | international h =>
    rw [Iso.read_fault h]
    decide
  | loose _ h =>
    rw [Loose.read_fault h]
    decide
  | far | outside => decide

theorem Reading.universal_eq_error {r : Reading} :
    r.universal = .error fault ↔ ∃ n, r.offset = some n ∧
      (DateTime.dayLength ≤ n.natAbs ∧ fault = .offsetTooLarge ∨
        n.natAbs < DateTime.dayLength ∧ r.moment.add? (-n) = none ∧ fault = .outOfRange) := by
  unfold universal
  cases r.offset with
  | none => simp
  | some n =>
    by_cases hFar : DateTime.dayLength ≤ n.natAbs
    · simp [hFar, Nat.not_lt.mpr hFar, eq_comm]
    · cases hAdd : r.moment.add? (-n) <;> simp [hFar, Nat.lt_of_not_le hFar, hAdd, eq_comm]

theorem untellable_of_universal {s : List Char} {r : Reading} (hRead : FreeReading now s r)
    (h : r.universal = .error fault) : Untellable now s fault := by
  obtain ⟨n, hOffset, ⟨hFar, rfl⟩ | ⟨hNear, hOutside, rfl⟩⟩ := Reading.universal_eq_error.mp h
  · exact .far hRead hOffset hFar
  · exact .outside hRead hOffset hNear hOutside

/-- A text that is not in the international notation is read loosely. -/
theorem readFree_of_loose {s : List Char} {x : Except Fault (Option Reading)}
    (hIso : Iso.read s = .ok none) (hLoose : Loose.read now s = x) :
    readFree now s = x.bind fun
      | none => .ok none
      | some r => r.universal.map some := by
  rw [readFree, hIso]
  show (Loose.read now s >>= _) = _
  rw [hLoose]
  rcases x with fault | (_ | r) <;> rfl

/-- A free reading is told in universal time. -/
theorem FreeReading.readFree_eq {s : List Char} {r : Reading} (h : FreeReading now s r) :
    readFree now s = r.universal.map some := by
  cases h with
  | international h =>
    rw [readFree, h]
    rfl
  | loose hIso h => exact readFree_of_loose hIso h

theorem readFree_eq_error {s : List Char} :
    readFree now s = .error fault ↔ Untellable now s fault := by
  constructor
  · intro h
    rcases hIso : Iso.read s with fault' | (_ | r)
    · rw [readFree, hIso] at h
      cases h
      exact .international hIso
    · rcases hLoose : Loose.read now s with fault' | (_ | r)
      · rw [readFree_of_loose hIso hLoose] at h
        cases h
        exact .loose hIso hLoose
      · rw [readFree_of_loose hIso hLoose] at h
        cases h
      · have hRead : FreeReading now s r := .loose hIso hLoose
        rw [hRead.readFree_eq] at h
        exact untellable_of_universal hRead (map_eq_error.mp h)
    · have hRead : FreeReading now s r := .international hIso
      rw [hRead.readFree_eq] at h
      exact untellable_of_universal hRead (map_eq_error.mp h)
  · intro h
    cases h with
    | international h =>
      rw [readFree, h]
      rfl
    | loose hIso h => exact readFree_of_loose hIso h
    | far hRead hOffset hFar =>
      rw [hRead.readFree_eq, map_eq_error, Reading.universal_eq_error]
      exact ⟨_, hOffset, .inl ⟨hFar, rfl⟩⟩
    | outside hRead hOffset hNear hOutside =>
      rw [hRead.readFree_eq, map_eq_error, Reading.universal_eq_error]
      exact ⟨_, hOffset, .inr ⟨hNear, hOutside, rfl⟩⟩

/-- A moment cannot be told exactly if no layout reads it and the free reading of it cannot be
told. -/
theorem readDateTime_eq_error {s : String} :
    readDateTime now s = .error fault ↔ s.isEmpty = false ∧
      readLayouts? dateTimeLayouts (Text.trimmed s.toList) = none ∧
        Untellable now (Text.trimmed s.toList) fault := by
  unfold readDateTime
  cases s.isEmpty with
  | true => simp
  | false =>
    dsimp only
    rw [if_neg Bool.false_ne_true]
    cases readLayouts? dateTimeLayouts (Text.trimmed s.toList) with
    | some r => simp
    | none => simp [readFree_eq_error]

theorem readClock_eq_error {s : String} :
    readClock now s = .error fault ↔ s.isEmpty = false ∧
      readLayouts? clockLayouts (Text.trimmed s.toList) = none ∧
        readDateTime now (Text.trim s) = .error fault := by
  unfold readClock
  cases s.isEmpty with
  | true => simp
  | false =>
    rw [if_neg Bool.false_ne_true]
    cases readLayouts? clockLayouts (Text.trimmed s.toList) with
    | some r => simp
    | none =>
      show (readDateTime now (Text.trim s) >>= _) = _ ↔ _
      cases readDateTime now (Text.trim s) <;> simp [bind, Except.bind, pure, Except.pure]

end Moments

end Intake.Calendar
