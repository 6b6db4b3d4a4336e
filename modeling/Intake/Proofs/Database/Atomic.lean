import Intake.Proofs.Database.Reloading

/-! Loads as transactions. A load that fails up to and including its commit fails as a whole: the
tables are those from before. Every other load leaves the tables with its whole configuration, also
if something befalls it behind the commit. -/

namespace Intake

namespace Work

/-- All of a load up to and including its commit. -/
def settle (c : Config) (replace : Bool) : Work Nat := do
  let id ← fill c replace
  commit
  return id

/-- Behind its commit a load reads its feed again. -/
theorem loadWork_eq_settle (c : Config) (replace : Bool) :
    Database.loadWork c replace = settle c replace >>= confirm c := by
  simp only [loadWork_eq, settle, bind_assoc, pure_bind]

/-- The session of a load goes on behind the commit with reading and a commit of its own. -/
theorem session_eq_settle (c : Config) (replace : Bool) :
    (Database.loadWork c replace <* commit) =
      settle c replace >>= fun id => confirm c id >>= fun stored => commit >>= fun _ =>
        pure stored := by
  show (Database.loadWork c replace >>= fun stored => commit >>= fun _ => pure stored) = _
  rw [loadWork_eq_settle, bind_assoc]

section Settle

variable {c : Config} {replace : Bool} {s s' : Session} {t : Tables}

/-- A load comes through its commit if nothing befalls a statement until then, and the numbers of
the configuration fit. -/
theorem settle_eq_ok {id : Nat} (hDraft : s.draft = some t) :
    exec (settle c replace) s = (.ok id, s') ↔
      Calm s.database.outage s.database.count (fillSteps c replace + 1) ∧ Storable c ∧
        id = t.feedId c.interface s.database.nextId ∧
        s' = ⟨{ s.database.advanced (fillSteps c replace + 1)
            (t.feedIds c.interface + c.rules.length) with
          tables := some (t.loaded c replace s.database.nextId) },
          some (t.loaded c replace s.database.nextId), s.log ++ [feedEntry t c.interface]⟩ := by
  unfold settle
  rw [calm_add, calm_one]
  simp only [exec_bind_eq_ok, exec_pure]
  constructor
  · rintro ⟨id', s1, hFill, _, s2, hCommit, hLast⟩
    cases hLast
    obtain ⟨hCalm, hStorable, rfl, rfl⟩ := (fill_eq_ok hDraft).mp hFill
    obtain ⟨hCalm', rfl⟩ := commit_eq_ok.mp hCommit
    exact ⟨⟨hCalm, hCalm'⟩, hStorable, rfl, by simp⟩
  · rintro ⟨⟨hCalm, hCalm'⟩, hStorable, rfl, rfl⟩
    refine ⟨_, _, (fill_eq_ok hDraft).mpr ⟨hCalm, hStorable, rfl, rfl⟩,
      (), _, commit_eq_ok.mpr ⟨hCalm', rfl⟩, by simp⟩

/-- Until its commit has succeeded a load leaves the tables alone. -/
theorem tables_of_settle_error {e : Breakdown} (h : exec (settle c replace) s = (.error e, s')) :
    s'.database.tables = s.database.tables := by
  rcases bind_cases h with ⟨_, -, hFill⟩ | ⟨id, between, hFill, h⟩
  · exact (drafts_fill c replace _ _ _ hFill).1
  rcases bind_cases h with ⟨_, -, hCommit⟩ | ⟨_, _, -, hLast⟩
  · obtain rfl := commit_eq_error hCommit
    exact (drafts_fill c replace _ _ _ hFill).1
  · cases hLast

/-- Without tables a load does not come through its commit. -/
theorem exists_tables_of_settle {id : Nat} (h : exec (settle c replace) s = (.ok id, s')) :
    ∃ t, s.draft = some t := by
  obtain ⟨_, _, hFill, -⟩ := exec_bind_eq_ok.mp h
  exact exists_tables_of_fill hFill

end Settle

end Work

namespace Database

open Work

/-- How a load breaks off before its configuration is committed: its source cannot be read or used,
or the database breaks down under it, at the latest when it commits. -/
inductive BreaksOff (db : Database) (source : Config.Source) (replace : Bool) : LoadFailure → Prop
  | unread {failure : Config.Failure} (hRead : source.read = .error failure) :
      BreaksOff db source replace (.config failure)
  | unsettled {c : Config} {breakdown : Breakdown} {s : Session} (hRead : source.read = .ok c)
      (hWork : exec (settle c replace) ⟨db, db.tables, []⟩ = (.error breakdown, s)) :
      BreaksOff db source replace (.database breakdown)

section BreaksOff

variable {db : Database} {source : Config.Source} {replace : Bool} {c : Config}

/-- What makes the database break down under a load before its configuration is committed: there are
no tables, a number does not fit, or something befalls one of the statements up to the commit. -/
theorem settle_error_iff :
    (∃ e s, exec (settle c replace) ⟨db, db.tables, []⟩ = (.error e, s)) ↔
      db.tables = none ∨ ¬Storable c ∨
        ∃ k ≤ fillSteps c replace, db.outage (db.count + k) ≠ none := by
  rcases hWork : exec (settle c replace) ⟨db, db.tables, []⟩ with ⟨e | id, s⟩
  · refine iff_of_true ⟨e, s, rfl⟩ ?_
    by_contra hNone
    simp only [not_or, not_not, not_exists, not_and] at hNone
    obtain ⟨hTables, hStorable, hCalm⟩ := hNone
    obtain ⟨t, ht⟩ := Option.ne_none_iff_exists'.mp hTables
    have hDone := (settle_eq_ok (s := ⟨db, db.tables, []⟩) ht).mpr
      ⟨fun k hk => hCalm k (Nat.lt_succ_iff.mp hk), hStorable, rfl, rfl⟩
    rw [hWork] at hDone
    cases hDone
  · refine iff_of_false (by rintro ⟨_, _, h⟩; cases h) ?_
    obtain ⟨t, ht⟩ := exists_tables_of_settle hWork
    obtain ⟨hCalm, hStorable, -, -⟩ := (settle_eq_ok ht).mp hWork
    rintro (hNone | hUnstorable | ⟨k, hk, hOutage⟩)
    · rw [hNone] at ht
      cases ht
    · exact hUnstorable hStorable
    · exact hOutage (hCalm k (Nat.lt_succ_of_le hk))

theorem breaksOff_iff :
    (∃ failure, db.BreaksOff source replace failure) ↔
      (∃ failure, source.read = .error failure) ∨
        ∃ c, source.read = .ok c ∧ (db.tables = none ∨ ¬Storable c ∨
          ∃ k ≤ fillSteps c replace, db.outage (db.count + k) ≠ none) := by
  constructor
  · rintro ⟨_, hRead | ⟨hRead, hWork⟩⟩
    · exact .inl ⟨_, hRead⟩
    · exact .inr ⟨_, hRead, settle_error_iff.mp ⟨_, _, hWork⟩⟩
  · rintro (⟨failure, hRead⟩ | ⟨c, hRead, hCause⟩)
    · exact ⟨_, .unread hRead⟩
    · obtain ⟨e, s, hWork⟩ := settle_error_iff.mpr hCause
      exact ⟨_, .unsettled hRead hWork⟩

/-- A load that breaks off fails with what broke it off, and nothing is committed. -/
theorem BreaksOff.load {failure : LoadFailure} (h : db.BreaksOff source replace failure) :
    (db.load source replace).value.1 = .error failure ∧
      (db.load source replace).value.2.tables = db.tables := by
  cases h with
  | unread hRead =>
    rw [load_of_failure db replace hRead]
    exact ⟨rfl, rfl⟩
  | @unsettled c breakdown s hRead hWork =>
    obtain ⟨result, s', hSession, hValue⟩ := load_of_read db replace hRead
    rw [session_eq_settle, exec_bind, hWork] at hSession
    cases hSession
    rw [hValue]
    exact ⟨rfl, tables_of_settle_error hWork⟩

/-- A load that does not break off has committed its configuration. -/
theorem tables_of_settled (hRead : source.read = .ok c) {id : Nat} {s : Session}
    (hWork : exec (settle c replace) ⟨db, db.tables, []⟩ = (.ok id, s)) :
    ∃ t, db.tables = some t ∧
      (db.load source replace).value.2.tables = some (t.loaded c replace db.nextId) := by
  obtain ⟨t, ht⟩ := exists_tables_of_settle hWork
  obtain ⟨-, -, -, rfl⟩ := (settle_eq_ok ht).mp hWork
  obtain ⟨result, s', hSession, hValue⟩ := load_of_read db replace hRead
  refine ⟨t, ht, ?_⟩
  rw [hValue]
  rw [session_eq_settle, exec_bind, hWork] at hSession
  -- the draft is what has been committed, so another commit changes nothing
  rcases bind_cases hSession with ⟨e, -, hConfirm⟩ | ⟨stored, between, hConfirm, hSession⟩
  · exact (drafts_confirm c id _ _ _ hConfirm).1
  obtain ⟨-, -, rfl⟩ := (confirm_eq_ok rfl).mp hConfirm
  rcases bind_cases hSession with ⟨e, -, hCommit⟩ | ⟨_, last, hCommit, hEnd⟩
  · obtain rfl := commit_eq_error hCommit
    rfl
  · obtain ⟨-, rfl⟩ := commit_eq_ok.mp hCommit
    cases hEnd
    rfl

end BreaksOff

/-- A load is made as a whole or not at all. If it breaks off before its configuration is committed,
it fails and the tables are as before; it does so if its source cannot be read, if there are no
tables, if a number does not fit, or if something befalls one of its statements, the last of which
is the commit. If it does not break off, the tables hold its feed with all of its rules. -/
theorem load_atomic (db : Database) (source : Config.Source) (replace : Bool) :
    (∀ failure, db.BreaksOff source replace failure →
      (db.load source replace).value.1 = .error failure ∧
        (db.load source replace).value.2.tables = db.tables) ∧
    ((∃ failure, db.BreaksOff source replace failure) ↔
      (∃ failure, source.read = .error failure) ∨
        ∃ c, source.read = .ok c ∧ (db.tables = none ∨ ¬Storable c ∨
          ∃ k ≤ fillSteps c replace, db.outage (db.count + k) ≠ none)) ∧
    ((∀ failure, ¬db.BreaksOff source replace failure) →
      ∃ c before after i, source.read = .ok c ∧ db.tables = some before ∧
        (db.load source replace).value.2.tables = some after ∧
        Tables.LoadEffect c replace i before after) := by
  refine ⟨fun failure h => h.load, breaksOff_iff, fun hNever => ?_⟩
  cases hRead : source.read with
  | error failure => exact absurd (.unread hRead) (hNever _)
  | ok c =>
    rcases hWork : exec (settle c replace) ⟨db, db.tables, []⟩ with ⟨e | id, s⟩
    · exact absurd (.unsettled hRead hWork) (hNever _)
    · obtain ⟨t, ht, hTables⟩ := tables_of_settled hRead hWork
      exact ⟨c, t, _, _, rfl, ht, hTables, Tables.loadEffect_loaded t c replace db.nextId⟩

/-- The rules of a feed are replaced by one rule. The commit is the statement with the number 4: if
the database breaks down there, the former rule stays, and if it breaks down behind it, the new one
is there. -/
theorem load_atomic_aroundCommit :
    let source : Config.Source := .value (.object
      [("interface", .object [("name", .text "orders"), ("interface_type", .text "ORDER"),
        ("client_id", .whole 7)]),
        ("rules", .list [.object [("name", .text "total"), ("target_field", .text "total_amount"),
          ("table_name", .text "ORDER_HEADERS"), ("source_path", .text "/Order/Total")]])])
    let failing (number : Nat) : Database :=
      { ofOneOwner with outage := fun n => if n = number then some "disk I/O error" else none }
    ((failing 4).load source true).value.1 =
        .error (.database (.reported "disk I/O error")) ∧
      ((failing 4).load source true).value.2.tables = ofOneOwner.tables ∧
      ∃ c after i, source.read = .ok c ∧ c.rules.length = 1 ∧
        ((failing 5).load source true).value.2.tables = some after ∧
        Tables.LoadEffect c true i ofOneOwner.contents after := by
  intro source failing
  have hEarly : (failing 4).BreaksOff source true (.database (.reported "disk I/O error")) :=
    .unsettled (c := ⟨{ name := "orders", kindTag := "ORDER", clientId := some 7 },
      [{ name := "total", targetField := "total_amount", tableName := "ORDER_HEADERS"
         sourcePath := some "/Order/Total" }]⟩) rfl rfl
  obtain ⟨hResult, hTables⟩ := (load_atomic (failing 4) source true).1 _ hEarly
  refine ⟨hResult, hTables, ?_⟩
  have hLate : ∀ failure, ¬(failing 5).BreaksOff source true failure := by
    rintro _ (hRead | ⟨hRead, hWork⟩)
    · cases hRead
    · cases hRead
      cases hWork
  obtain ⟨c, before, after, i, hRead, hBefore, hAfter, hEffect⟩ :=
    (load_atomic (failing 5) source true).2.2 hLate
  cases hBefore
  refine ⟨c, after, i, hRead, ?_, hAfter, hEffect⟩
  cases hRead
  rfl

end Database

/-! ### Loads that nothing befalls -/

/-- A session with tables that nothing befalls. -/
structure Session.IsCalm (s : Session) : Prop where
  draft : ∃ t, s.draft = some t
  outage : ∀ n, s.database.outage n = none

theorem Database.checkRoom_bind_eq_error {α : Type} {n : Option Int} {x : Unit → Except Fault α}
    {fault : Fault} (h : checkRoom n >>= x = .error fault) :
    fault = .unstorableWhole ∨ x () = .error fault := by
  rcases bind_eq_error.mp h with hRoom | ⟨_, -, hRest⟩
  · unfold checkRoom at hRoom
    split at hRoom
    · split at hRoom <;> cases hRoom
      exact .inl rfl
    · cases hRoom
  · exact .inr hRest

namespace Work

variable {α β : Type}

/-- Work that nothing but a number without room brings down, as long as the session is calm. -/
def IsSturdy (x : Work α) : Prop :=
  ∀ s : Session, s.IsCalm → (exec x s).2.IsCalm ∧
    ∀ e, (exec x s).1 = .error e → e = .fault .unstorableWhole

theorem IsSturdy.bind {x : Work α} {f : α → Work β} (hFirst : x.IsSturdy)
    (hRest : ∀ a, (f a).IsSturdy) : (x >>= f).IsSturdy := by
  intro s hCalm
  have hStep := hFirst s hCalm
  rw [exec_bind]
  rcases hDone : exec x s with ⟨e | a, between⟩
  · rw [hDone] at hStep
    exact ⟨hStep.1, fun e' he => hStep.2 e' (by cases he; rfl)⟩
  · rw [hDone] at hStep
    exact hRest a between hStep.1

theorem isSturdy_pure (a : α) : (pure a : Work α).IsSturdy := fun _ hCalm => ⟨hCalm, nofun⟩

theorem isSturdy_note (origin : Log.Origin) (level : Log.Level) (message : String) :
    (note origin level message).IsSturdy :=
  fun _ hCalm => ⟨⟨hCalm.draft, hCalm.outage⟩, nofun⟩

theorem isSturdy_freshId : freshId.IsSturdy :=
  fun _ hCalm => ⟨⟨hCalm.draft, hCalm.outage⟩, nofun⟩

theorem isSturdy_statement {table : String} {f : Tables → Except Fault (α × Tables)}
    (h : ∀ t fault, f t = .error fault → fault = .unstorableWhole) :
    (statement table f).IsSturdy := by
  intro s hCalm
  obtain ⟨t, ht⟩ := hCalm.draft
  cases hf : f t with
  | error fault =>
    have hDone : exec (statement table f) s =
        (.error (.fault fault), ⟨s.database.advanced 1 0, s.draft, s.log⟩) := by
      rw [exec_statement, hCalm.outage, ht]
      simp only [hf]
    rw [hDone]
    exact ⟨⟨hCalm.draft, hCalm.outage⟩, fun e he => by cases he; rw [h t fault hf]⟩
  | ok done =>
    have hDone : exec (statement table f) s =
        (.ok done.1, ⟨s.database.advanced 1 0, some done.2, s.log⟩) :=
      statement_eq_ok.mpr ⟨hCalm.outage _, t, done.2, ht, hf, rfl⟩
    rw [hDone]
    exact ⟨⟨⟨done.2, rfl⟩, hCalm.outage⟩, nofun⟩

theorem isSturdy_commit : commit.IsSturdy := by
  intro s hCalm
  have hDone := commit_eq_ok.mpr ⟨hCalm.outage _, rfl⟩
  rw [hDone]
  exact ⟨⟨hCalm.draft, hCalm.outage⟩, nofun⟩

theorem isSturdy_fill (c : Config) (replace : Bool) : (fill c replace).IsSturdy := by
  have hOpen : (openFeed c.interface).IsSturdy := by
    have hFound : (interface? c.interface.name c.interface.clientId).IsSturdy :=
      isSturdy_statement fun _ _ h => (Database.checkRoom_bind_eq_error h).resolve_right nofun
    have hPut (i : Stored Interface) : (putInterface i).IsSturdy :=
      isSturdy_statement fun _ _ h => (Database.checkRoom_bind_eq_error h).resolve_right nofun
    refine hFound.bind fun found => IsSturdy.bind ?_ fun id => ?_
    · cases found with
      | some feed => exact isSturdy_pure feed.id
      | none => exact isSturdy_freshId
    · exact (isSturdy_note _ _ _).bind fun _ => (hPut _).bind fun _ => isSturdy_pure id
  have hClear (id : Nat) : (clearRules replace id).IsSturdy := by
    cases replace with
    | false => exact isSturdy_pure ()
    | true =>
      show (removeRules id).IsSturdy
      exact isSturdy_statement fun _ _ h => nomatch h
  have hAdd (id : Nat) : (addRules id c.interface.clientId c.rules).IsSturdy := by
    induction c.rules with
    | nil => exact isSturdy_pure ()
    | cons rule rest ih =>
      rw [addRules_cons]
      refine isSturdy_freshId.bind fun k => (isSturdy_statement fun _ _ h => ?_).bind fun _ => ih
      rcases Database.checkRoom_bind_eq_error h with hRoom | h
      · exact hRoom
      · exact (Database.checkRoom_bind_eq_error h).resolve_right nofun
  exact hOpen.bind fun id => (hClear id).bind fun _ => (hAdd id).bind fun _ => isSturdy_pure id

theorem isSturdy_settle (c : Config) (replace : Bool) : (settle c replace).IsSturdy :=
  (isSturdy_fill c replace).bind fun id => isSturdy_commit.bind fun _ => isSturdy_pure id

end Work

namespace Database

/-- If nothing befalls a database with tables, a load of a configuration that is read breaks off
exactly for a number without room. -/
theorem load_of_not_storable {db : Database} {t : Tables} {source : Config.Source} {replace : Bool}
    {c : Config} (ht : db.tables = some t) (hCalm : ∀ n, db.outage n = none)
    (hRead : source.read = .ok c) (hRoom : ¬Work.Storable c) :
    (db.load source replace).value.1 = .error (.database (.fault .unstorableWhole)) ∧
      (db.load source replace).value.2.tables = db.tables := by
  obtain ⟨e, s, hWork⟩ := settle_error_iff.mpr (.inr (.inl hRoom))
  have hSession : Session.IsCalm ⟨db, db.tables, []⟩ := ⟨⟨t, ht⟩, hCalm⟩
  obtain rfl := (Work.isSturdy_settle c replace _ hSession).2 e (by rw [hWork])
  exact BreaksOff.load (.unsettled hRead hWork)

end Database

end Intake
