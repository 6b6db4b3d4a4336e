import Intake.Database.Repository
import Intake.Proofs.Results

/-! What work in a session does to the tables of its database: nothing before it commits. A statement
changes the draft, and a commit puts the draft in the place of the tables. -/

namespace Intake.Work

variable {α β : Type}

/-- What work gives in a session, and the session that it leaves. -/
def exec (work : Work α) (s : Session) : Except Breakdown α × Session := work.run.run s

theorem exec_bind (x : Work α) (f : α → Work β) (s : Session) :
    exec (x >>= f) s =
      match exec x s with
      | (.ok a, s) => exec (f a) s
      | (.error e, s) => (.error e, s) := by
  simp only [exec, ExceptT.run_bind, StateT.run_bind]
  rcases (x.run.run s : Except Breakdown α × Session) with ⟨_ | _, _⟩ <;> rfl

@[simp] theorem exec_pure (a : α) (s : Session) : exec (pure a) s = (.ok a, s) := rfl

@[simp] theorem exec_get (s : Session) : exec get s = (.ok s, s) := rfl

@[simp] theorem exec_set (s s' : Session) : exec (set s') s = (.ok .unit, s') := rfl

@[simp] theorem exec_modify (f : Session → Session) (s : Session) :
    exec (modify f) s = (.ok .unit, f s) := rfl

@[simp] theorem exec_throw (e : Breakdown) (s : Session) :
    exec (throw e : Work α) s = (.error e, s) := rfl

/-- Work in two parts fails in the first one, or goes on with the second. -/
theorem bind_cases {x : Work α} {f : α → Work β} {s s' : Session} {result : Except Breakdown β}
    (h : exec (x >>= f) s = (result, s')) :
    (∃ e, result = .error e ∧ exec x s = (.error e, s')) ∨
      ∃ a between, exec x s = (.ok a, between) ∧ exec (f a) between = (result, s') := by
  rw [exec_bind] at h
  rcases hFirst : exec x s with ⟨e | a, between⟩
  · rw [hFirst] at h
    cases h
    exact .inl ⟨e, rfl, rfl⟩
  · rw [hFirst] at h
    exact .inr ⟨a, between, rfl, h⟩

section Statements

variable {s s' : Session} {table : String}

theorem count_frame {result : Except Breakdown Unit} (h : exec count s = (result, s')) :
    s'.database.tables = s.database.tables ∧ s'.draft = s.draft := by
  unfold count at h
  simp only [exec_bind, exec_get, exec_set] at h
  split at h <;> cases h <;> exact ⟨rfl, rfl⟩

/-- A statement leaves the tables as they are. One that succeeds has changed the draft. -/
theorem statement_spec {f : Tables → Except Fault (α × Tables)} {result : Except Breakdown α}
    (h : exec (statement table f) s = (result, s')) :
    s'.database.tables = s.database.tables ∧
      ∀ a, result = .ok a →
        ∃ t t', s.draft = some t ∧ f t = .ok (a, t') ∧ s'.draft = some t' := by
  unfold statement at h
  rcases bind_cases h with ⟨e, rfl, hCount⟩ | ⟨_, counted, hCount, h⟩
  · exact ⟨(count_frame hCount).1, nofun⟩
  · obtain ⟨hTables, hDraft⟩ := count_frame hCount
    rw [exec_bind, exec_get] at h
    dsimp only at h
    rw [hDraft] at h
    split at h
    · cases h
      exact ⟨hTables, nofun⟩
    · next t ht =>
      split at h
      · cases h
        exact ⟨hTables, nofun⟩
      · next a t' hf =>
        cases h
        exact ⟨hTables, fun _ hSame => ⟨t, t', ht, by cases hSame; exact hf, rfl⟩⟩

/-- A query leaves the draft as well. -/
theorem query_spec {f : Tables → α} {result : Except Breakdown α}
    (h : exec (query table f) s = (result, s')) :
    s'.database.tables = s.database.tables ∧
      ∀ a, result = .ok a → s'.draft = s.draft ∧ ∃ t, s.draft = some t ∧ a = f t := by
  obtain ⟨hTables, hOk⟩ := statement_spec h
  refine ⟨hTables, fun a ha => ?_⟩
  obtain ⟨t, t', ht, hf, ht'⟩ := hOk a ha
  cases hf
  exact ⟨ht'.trans ht.symm, t, ht, rfl⟩

/-- A commit that succeeds puts the draft in the place of the tables; another one changes nothing. -/
theorem commit_spec {result : Except Breakdown Unit} (h : exec commit s = (result, s')) :
    (result = .ok () ∧ s'.database.tables = s.draft ∧ s'.draft = s.draft) ∨
      ((∃ e, result = .error e) ∧ s'.database.tables = s.database.tables) := by
  unfold commit at h
  rcases bind_cases h with ⟨e, rfl, hCount⟩ | ⟨_, counted, hCount, h⟩
  · exact .inr ⟨⟨e, rfl⟩, (count_frame hCount).1⟩
  · cases h
    obtain ⟨-, hDraft⟩ := count_frame hCount
    exact .inl ⟨rfl, hDraft, hDraft⟩

end Statements

end Intake.Work
