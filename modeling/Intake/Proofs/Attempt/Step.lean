import Intake.Attempt.Process

/-! Running the steps of an attempt: what a step gives from a state and the state it leaves, for
each way in which steps are put together, and steps on two stores that do the same. -/

namespace Intake.Attempt

variable {σ τ α β : Type}

/-- What a step gives from a state, and the state that it leaves. -/
def exec (x : Step σ α) (a : Attempt σ) : Except Abort α × Attempt σ := x.run.run a

@[simp] theorem exec_pure (v : α) (a : Attempt σ) : exec (pure v) a = (.ok v, a) := rfl

theorem exec_bind (x : Step σ α) (f : α → Step σ β) (a : Attempt σ) :
    exec (x >>= f) a =
      match exec x a with
      | (.ok v, b) => exec (f v) b
      | (.error e, b) => (.error e, b) := by
  simp only [exec, ExceptT.run_bind, StateT.run_bind]
  rcases (x.run.run a : Except Abort α × Attempt σ) with ⟨_ | _, _⟩ <;> rfl

theorem exec_bind_ok {x : Step σ α} {f : α → Step σ β} {a b : Attempt σ} {v : α}
    (h : exec x a = (.ok v, b)) : exec (x >>= f) a = exec (f v) b := by
  rw [exec_bind, h]

theorem exec_bind_error {x : Step σ α} {f : α → Step σ β} {a b : Attempt σ} {e : Abort}
    (h : exec x a = (.error e, b)) : exec (x >>= f) a = (.error e, b) := by
  rw [exec_bind, h]

@[simp] theorem exec_get (a : Attempt σ) : exec (get : Step σ (Attempt σ)) a = (.ok a, a) := rfl

@[simp] theorem exec_modify (f : Attempt σ → Attempt σ) (a : Attempt σ) :
    exec (modify f : Step σ PUnit) a = (.ok .unit, f a) := rfl

@[simp] theorem exec_throw (e : Abort) (a : Attempt σ) :
    exec (throw e : Step σ α) a = (.error e, a) := rfl

theorem exec_tryCatch (x : Step σ α) (f : Abort → Step σ α) (a : Attempt σ) :
    exec (tryCatch x f) a =
      match exec x a with
      | (.ok v, b) => (.ok v, b)
      | (.error e, b) => exec (f e) b := by
  show (ExceptT.run (tryCatch x f)).run a = _
  rw [ExceptT.run_tryCatch]
  simp only [exec, StateT.run_bind]
  rcases (x.run.run a : Except Abort α × Attempt σ) with ⟨_ | _, _⟩ <;> rfl

@[simp] theorem exec_note (level : Log.Level) (message : String) (fields : List (String × Json))
    (a : Attempt σ) :
    exec (note level message fields) a =
      (.ok (), { a with log := a.log ++ [⟨.attempts, level, message, fields⟩] }) := rfl

@[simp] theorem exec_logged (x : Logged α) (a : Attempt σ) :
    exec (logged x) a = (.ok x.value, { a with log := a.log ++ x.log }) := rfl

@[simp] theorem exec_advance (next : Stage) (a : Attempt σ) :
    exec (advance next) a =
      (.ok (), { a with
        past := a.past ++ [a.stage]
        stage := next
        log := a.log ++ [⟨.attempts, .debug,
          a.label ++ ": " ++ a.stage.tag ++ " -> " ++ next.tag, []⟩] }) := rfl

/-- Moving on to a stage leaves all but the stages and the log as it is. -/
theorem exec_advance_frame (next : Stage) (a : Attempt σ) :
    ∃ b, exec (advance next) a = (.ok (), b) ∧ b.outcome = a.outcome ∧ b.trail = a.trail ∧
      b.nextId = a.nextId ∧ b.store = a.store :=
  ⟨_, exec_advance next a, rfl, rfl, rfl, rfl⟩

/-- Giving an attempt up once a fault has been noted. -/
def failWith (repo : Repository σ) (t : Task) (abort : Abort) : Step σ Unit := do
  modify fun a => { a with trail := a.trail.add abort.message }
  advance .failed
  note .error (t.kind.tag ++ " document failed: " ++ abort.message) t.logFields
  finish repo t .error

theorem giveUp_fault (repo : Repository σ) (t : Task) (fault : Fault) :
    giveUp repo t (.fault fault) = (do
      note .error ("Unexpected error processing " ++ t.kind.tag ++ " document: " ++ fault.message)
      failWith repo t (.fault fault)) := rfl

theorem giveUp_of_ne_fault {repo : Repository σ} {t : Task} {abort : Abort}
    (h : ∀ fault, abort ≠ .fault fault) : giveUp repo t abort = failWith repo t abort := by
  cases abort with
  | fault fault => exact absurd rfl (h fault)
  | _ => rfl

end Intake.Attempt
