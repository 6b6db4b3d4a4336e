import Intake.Proofs.Attempt.Step

/-! The exchanges of an attempt with its store: each call together with what the store answered. A
traced store keeps a list of them and otherwise does what the store does that it is made from, so
that every attempt goes the same way with either. What every call of a store keeps, an attempt
keeps; so the exchanges that a traced store has listed lead from the state in which the attempt
began to the one in which it ended. -/

namespace Intake

variable {σ τ α β : Type}

/-- A call of a store and its answer. -/
inductive Exchange where
  | record (outcome : Outcome) (answer : Except String (Option Outcome))
  | rules (interfaceId : Option Nat) (table : String)
    (answer : Except String (Option (List Rule)))
  | saveHeader (header : Record) (answer : Except String (Option Record))
  | saveLines (lines : List Record) (answer : Except String Unit)

/-- The state of a store, and the exchanges with it so far. -/
structure Traced (σ : Type) where
  store : σ
  exchanges : List Exchange

/-- Keeps the exchange of a call beside the state that the call leaves. -/
def Logged.traced (exchanges : List Exchange) (exchange : α → Exchange) (x : Logged (α × σ)) :
    Logged (α × Traced σ) :=
  ⟨(x.value.1, ⟨x.value.2, exchanges ++ [exchange x.value.1]⟩), x.log⟩

/-- The store that keeps a list of the exchanges with `repo`. -/
def Repository.traced (repo : Repository σ) : Repository (Traced σ) where
  record o s := (repo.record o s.store).traced s.exchanges (.record o)
  rules interfaceId table s :=
    (repo.rules interfaceId table s.store).traced s.exchanges (.rules interfaceId table)
  saveHeader header s := (repo.saveHeader header s.store).traced s.exchanges (.saveHeader header)
  saveLines lines s := (repo.saveLines lines s.store).traced s.exchanges (.saveLines lines)

namespace Attempt

/-- The same state with a store seen through `f`. -/
def mapStore (f : τ → σ) (a : Attempt τ) : Attempt σ where
  outcome := a.outcome
  trail := a.trail
  past := a.past
  stage := a.stage
  discovery := a.discovery
  store := f a.store
  nextId := a.nextId
  log := a.log

/-- Two steps that do the same, the store of the first one seen through `f`. -/
def Agrees (f : τ → σ) (x : Step τ α) (y : Step σ α) : Prop :=
  ∀ a, exec y (a.mapStore f) = ((exec x a).1, (exec x a).2.mapStore f)

/-- A call on two stores gives the same answer, the state of the first store seen through `f`. -/
def AgreesOn (f : τ → σ) (x : Logged (α × τ)) (y : Logged (α × σ)) : Prop :=
  y.value = (x.value.1, f x.value.2) ∧ y.log = x.log

namespace Agrees

variable {f : τ → σ}

theorem pure (v : α) : Agrees f (Pure.pure v) (Pure.pure v) := fun _ => rfl

theorem throw (e : Abort) :
    Agrees f (MonadExcept.throw e : Step τ α) (MonadExcept.throw e : Step σ α) :=
  fun _ => rfl

theorem note (level : Log.Level) (message : String) (fields : List (String × Json)) :
    Agrees f (Attempt.note level message fields) (Attempt.note level message fields) :=
  fun _ => rfl

theorem logged (x : Logged α) : Agrees f (Attempt.logged x) (Attempt.logged x) := fun _ => rfl

theorem advance (next : Stage) : Agrees f (Attempt.advance next) (Attempt.advance next) :=
  fun _ => rfl

theorem modify {g : Attempt τ → Attempt τ} {h : Attempt σ → Attempt σ}
    (same : ∀ a, h (a.mapStore f) = (g a).mapStore f) :
    Agrees f (modify g : Step τ PUnit) (modify h : Step σ PUnit) :=
  fun a => by simp [same]

theorem bind {x : Step τ α} {y : Step σ α} {g : α → Step τ β} {h : α → Step σ β}
    (first : Agrees f x y) (next : ∀ v, Agrees f (g v) (h v)) : Agrees f (x >>= g) (y >>= h) := by
  intro a
  rw [exec_bind, exec_bind, first a]
  rcases exec x a with ⟨e | v, b⟩
  · rfl
  · exact next v b

/-- Steps that look at the state first. -/
theorem get_bind {g : Attempt τ → Step τ β} {h : Attempt σ → Step σ β}
    (next : ∀ a, Agrees f (g a) (h (a.mapStore f))) : Agrees f (get >>= g) (get >>= h) :=
  fun a => next a a

theorem tryCatch {x : Step τ α} {y : Step σ α} {g : Abort → Step τ α} {h : Abort → Step σ α}
    (first : Agrees f x y) (next : ∀ e, Agrees f (g e) (h e)) :
    Agrees f (MonadExcept.tryCatch x g) (MonadExcept.tryCatch y h) := by
  intro a
  rw [exec_tryCatch, exec_tryCatch, first a]
  rcases exec x a with ⟨e | v, b⟩
  · exact next e b
  · rfl

theorem call {name : Call} {g : τ → Logged (Except String α × τ)}
    {h : σ → Logged (Except String α × σ)} (same : ∀ s, AgreesOn f (g s) (h (f s))) :
    Agrees f (Attempt.call name g) (Attempt.call name h) := by
  intro a
  obtain ⟨hValue, hLog⟩ := same a.store
  simp only [Attempt.call, exec_bind, exec_get, exec_logged]
  simp only [mapStore, hLog, hValue]
  rcases (g a.store).value with ⟨_ | _, _⟩ <;> rfl

end Agrees

end Attempt

/-- Two stores every call of which agrees, the states of the first one seen through `f`. -/
structure Repository.Refines (f : τ → σ) (fine : Repository τ) (coarse : Repository σ) : Prop where
  record : ∀ o s, Attempt.AgreesOn f (fine.record o s) (coarse.record o (f s))
  rules : ∀ i table s, Attempt.AgreesOn f (fine.rules i table s) (coarse.rules i table (f s))
  saveHeader : ∀ r s, Attempt.AgreesOn f (fine.saveHeader r s) (coarse.saveHeader r (f s))
  saveLines : ∀ rs s, Attempt.AgreesOn f (fine.saveLines rs s) (coarse.saveLines rs (f s))

theorem Repository.traced_refines (repo : Repository σ) :
    Repository.Refines Traced.store repo.traced repo :=
  ⟨fun _ _ => ⟨rfl, rfl⟩, fun _ _ _ => ⟨rfl, rfl⟩, fun _ _ => ⟨rfl, rfl⟩, fun _ _ => ⟨rfl, rfl⟩⟩

namespace Attempt

variable {f : τ → σ} {fine : Repository τ} {coarse : Repository σ}

theorem record_agrees (h : Repository.Refines f fine coarse) :
    Agrees f (record fine) (record coarse) :=
  .get_bind fun a => .bind (.call (h.record a.outcome)) fun _ => .modify fun _ => rfl

theorem resolve_agrees (h : Repository.Refines f fine coarse) (t : Task) :
    Agrees f (resolve fine t) (resolve coarse t) := by
  refine .bind (.call (h.rules _ _)) fun _ => .bind (.call (h.rules _ _)) fun _ =>
    .bind (.logged _) fun plan => ?_
  cases plan with
  | error fault => exact .throw _
  | ok plan => exact .bind (.note _ _ _) fun _ => .pure _

theorem bindHeader_agrees (t : Task) (rules : List Rule) :
    Agrees f (bindHeader t rules) (bindHeader t rules) := by
  refine .get_bind fun a => .bind (.logged _) fun bound => .bind (.modify fun _ => rfl) fun _ => ?_
  rcases bound with ⟨_ | _, _⟩
  · exact .throw _
  · exact .pure _

theorem saveHeader_agrees (h : Repository.Refines f fine coarse) (header : Record) :
    Agrees f (saveHeader fine header) (saveHeader coarse header) := by
  refine .bind (.call (h.saveHeader header)) fun saved => ?_
  cases saved with
  | none => exact .throw _
  | some saved =>
    cases hId : saved.id? with
    | none => simpa only [hId] using .throw _
    | some id =>
      simp only [hId]
      exact .bind (.modify fun _ => rfl) fun _ => .bind (.note _ _ _) fun _ => .pure _

theorem bindLines_agrees (t : Task) (header : Record) (groups : List LineGroup) :
    Agrees f (bindLines t header groups) (bindLines t header groups) := by
  refine .get_bind fun a => .bind (.logged _) fun bound => .bind (.modify fun _ => rfl) fun _ => ?_
  obtain ⟨_ | _, tally⟩ := bound
  · exact .throw _
  · show Agrees f (if _ then _ else _) (if _ then _ else _)
    split
    · exact .throw _
    · exact .pure _

theorem saveLines_agrees (h : Repository.Refines f fine coarse) (t : Task) (lines : List Record) :
    Agrees f (saveLines fine t lines) (saveLines coarse t lines) := by
  unfold saveLines
  split
  · exact .get_bind fun _ => .note _ _ _
  · exact .bind (.call (h.saveLines lines)) fun _ => .modify fun _ => rfl

theorem map_agrees (h : Repository.Refines f fine coarse) (t : Task) :
    Agrees f (map fine t) (map coarse t) :=
  .bind (record_agrees h) fun _ => .bind (resolve_agrees h t) fun _ =>
    .bind (bindHeader_agrees t _) fun _ => .bind (.advance _) fun _ =>
    .bind (saveHeader_agrees h _) fun _ => .bind (.advance _) fun _ =>
    .bind (bindLines_agrees t _ _) fun _ => .bind (.advance _) fun _ =>
    .bind (saveLines_agrees h t _) fun _ => .advance _

theorem finish_agrees (h : Repository.Refines f fine coarse) (t : Task) (status : Status) :
    Agrees f (finish fine t status) (finish coarse t status) :=
  .bind (.modify fun _ => rfl) fun _ => .get_bind fun _ => .tryCatch (record_agrees h) fun _ =>
    .bind (.note _ _ _) fun _ => .bind (.modify fun _ => rfl) fun _ => .bind (.advance _) fun _ =>
    .modify fun _ => rfl

theorem failWith_agrees (h : Repository.Refines f fine coarse) (t : Task) (abort : Abort) :
    Agrees f (failWith fine t abort) (failWith coarse t abort) :=
  .bind (.modify fun _ => rfl) fun _ => .bind (.advance _) fun _ => .bind (.note _ _ _) fun _ =>
    finish_agrees h t .error

theorem giveUp_agrees (h : Repository.Refines f fine coarse) (t : Task) (abort : Abort) :
    Agrees f (giveUp fine t abort) (giveUp coarse t abort) := by
  by_cases hFault : ∃ fault, abort = .fault fault
  · obtain ⟨fault, rfl⟩ := hFault
    rw [giveUp_fault, giveUp_fault]
    exact .bind (.note _ _ _) fun _ => failWith_agrees h t _
  · have hNe : ∀ fault, abort ≠ .fault fault := fun fault he => hFault ⟨fault, he⟩
    rw [giveUp_of_ne_fault hNe, giveUp_of_ne_fault hNe]
    exact failWith_agrees h t _

theorem complete_agrees (h : Repository.Refines f fine coarse) (t : Task) :
    Agrees f (complete fine t) (complete coarse t) :=
  .get_bind fun _ => .bind (.note _ _ _) fun _ => finish_agrees h t .success

theorem course_agrees (h : Repository.Refines f fine coarse) (t : Task) :
    Agrees f (course fine t) (course coarse t) :=
  .bind (.note _ _ _) fun _ =>
    .tryCatch (.bind (map_agrees h t) fun _ => complete_agrees h t) (giveUp_agrees h t)

/-- Attempts with two stores that agree go the same way. -/
theorem run_refines (h : Repository.Refines f fine coarse) (t : Task) (store : τ) (nextId : Nat)
    (log : List Log.Entry) :
    run coarse t (f store) nextId log = (run fine t store nextId log).mapStore f := by
  have agrees := course_agrees h t (start t store nextId log)
  exact congrArg Prod.snd agrees

end Attempt

/-- What a store does in an exchange: it is called in the first state, and leaves the second one. -/
def Exchange.Takes (repo : Repository σ) : Exchange → σ → σ → Prop
  | record outcome answer, s, s' => (repo.record outcome s).value = (answer, s')
  | rules interfaceId table answer, s, s' => (repo.rules interfaceId table s).value = (answer, s')
  | saveHeader header answer, s, s' => (repo.saveHeader header s).value = (answer, s')
  | saveLines lines answer, s, s' => (repo.saveLines lines s).value = (answer, s')

namespace Repository

/-- Exchanges that lead a store from one state to another. -/
inductive Leads (repo : Repository σ) : List Exchange → σ → σ → Prop
  | nil (s : σ) : Leads repo [] s s
  | cons {e : Exchange} {es : List Exchange} {s s' s'' : σ} :
      e.Takes repo s s' → Leads repo es s' s'' → Leads repo (e :: es) s s''

variable {repo : Repository σ}

theorem Leads.concat {e : Exchange} {es : List Exchange} {s s' s'' : σ}
    (h : repo.Leads es s s') (hLast : e.Takes repo s' s'') : repo.Leads (es ++ [e]) s s'' := by
  induction h with
  | nil s => exact .cons hLast (.nil s'')
  | cons hFirst _ ih => exact .cons hFirst (ih hLast)

/-- Exchanges lead through a state after each of them. -/
theorem Leads.split {es later : List Exchange} {s s'' : σ} (h : repo.Leads (es ++ later) s s'') :
    ∃ s', repo.Leads es s s' ∧ repo.Leads later s' s'' := by
  induction es generalizing s with
  | nil => exact ⟨s, .nil s, h⟩
  | cons e es ih =>
    cases h with
    | cons hFirst hRest =>
      obtain ⟨s', hBefore, hAfter⟩ := ih hRest
      exact ⟨s', .cons hFirst hBefore, hAfter⟩

/-- A property of states that every call keeps. -/
structure Keeps (repo : Repository σ) (P : σ → Prop) : Prop where
  record : ∀ outcome s, P s → P (repo.record outcome s).value.2
  rules : ∀ interfaceId table s, P s → P (repo.rules interfaceId table s).value.2
  saveHeader : ∀ header s, P s → P (repo.saveHeader header s).value.2
  saveLines : ∀ lines s, P s → P (repo.saveLines lines s).value.2

/-- A traced store lists the exchanges that have led it from the state in which it began. -/
theorem traced_keeps (repo : Repository σ) (store : σ) :
    repo.traced.Keeps fun s => repo.Leads s.exchanges store s.store where
  record _ _ h := h.concat rfl
  rules _ _ _ h := h.concat rfl
  saveHeader _ _ h := h.concat rfl
  saveLines _ _ h := h.concat rfl

end Repository

/-- The result of a call beside a state that is known to have a property. -/
def Logged.within {P : σ → Prop} (x : Logged (α × σ)) (h : P x.value.2) :
    Logged (α × { s // P s }) :=
  ⟨(x.value.1, ⟨x.value.2, h⟩), x.log⟩

namespace Repository

variable {repo : Repository σ} {P : σ → Prop}

/-- The store on those of its states that have a property which every call keeps. -/
def within (repo : Repository σ) (h : repo.Keeps P) : Repository { s // P s } where
  record outcome s := (repo.record outcome s.1).within (h.record outcome s.1 s.2)
  rules interfaceId table s :=
    (repo.rules interfaceId table s.1).within (h.rules interfaceId table s.1 s.2)
  saveHeader header s := (repo.saveHeader header s.1).within (h.saveHeader header s.1 s.2)
  saveLines lines s := (repo.saveLines lines s.1).within (h.saveLines lines s.1 s.2)

theorem within_refines (h : repo.Keeps P) : Refines Subtype.val (repo.within h) repo :=
  ⟨fun _ _ => ⟨rfl, rfl⟩, fun _ _ _ => ⟨rfl, rfl⟩, fun _ _ => ⟨rfl, rfl⟩, fun _ _ => ⟨rfl, rfl⟩⟩

end Repository

end Intake
