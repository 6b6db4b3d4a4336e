import Intake.Proofs.Attempt.Stages
import Intake.Proofs.Database.Session

/-! What the calls of the store that is a database do to its tables. A call leaves the tables as they
are, or makes the one change that it is for; an answer that says so comes only once the change is
committed. Where no tables have been created, none are changed. -/

namespace Intake

namespace Tables

variable {α : Type} {isSame : α → Bool} {x : α} {xs : List α}

/-- What is put is found by any test that it passes, if no other thing passes it before. -/
theorem find?_put_of_first {p : α → Bool} (h : p x)
    (hFirst : ∀ y, xs.find? p = some y → isSame y) : (put isSame x xs).find? p = some x := by
  unfold put
  split
  · next hAny =>
    induction xs with
    | nil => cases hAny
    | cons y ys ih =>
      by_cases hSame : isSame y
      · simp [hSame, h]
      · have hSkip : p y = false := by
          cases hy : p y with
          | false => rfl
          | true => exact absurd (hFirst y (List.find?_cons_of_pos hy)) hSame
        have hRest : ys.any isSame = true := by simpa [hSame] using hAny
        have hLater : ∀ z, ys.find? p = some z → isSame z := by
          intro z hz
          exact hFirst z (by simpa [hSkip] using hz)
        simpa [hSame, hSkip] using ih hLater hRest
  · next hNew =>
    have hNone : xs.find? p = none := by
      cases hFound : xs.find? p with
      | none => rfl
      | some y =>
        have hSame := hFirst y hFound
        exact absurd (List.any_eq_true.mpr ⟨y, List.mem_of_find?_eq_some hFound, hSame⟩) hNew
    simp [List.find?_append, hNone, h]

theorem find?_put (h : isSame x) : (put isSame x xs).find? isSame = some x :=
  find?_put_of_first h fun _ hy => List.find?_some hy

theorem mem_put {y : α} (h : y ∈ put isSame x xs) : y = x ∨ y ∈ xs := by
  unfold put at h
  split at h
  · obtain ⟨z, hz, rfl⟩ := List.mem_map.mp h
    split
    · exact .inl rfl
    · exact .inr hz
  · rcases List.mem_append.mp h with hOld | hNew
    · exact .inr hOld
    · exact .inl (List.mem_singleton.mp hNew)

theorem mem_put_of_not {y : α} (h : y ∈ xs) (hOther : isSame y = false) :
    y ∈ put isSame x xs := by
  unfold put
  split
  · exact List.mem_map.mpr ⟨y, h, by simp [hOther]⟩
  · exact List.mem_append_left _ h

theorem eq_of_mem_put {y : α} (h : y ∈ put isSame x xs) (hSame : isSame y) : y = x := by
  unfold put at h
  split at h
  · obtain ⟨z, -, rfl⟩ := List.mem_map.mp h
    split
    · rfl
    · next hOther =>
      rw [if_neg hOther] at hSame
      exact absurd hSame hOther
  · next hNew =>
    rcases List.mem_append.mp h with hOld | hAdded
    · exact absurd (List.any_eq_true.mpr ⟨y, hOld, hSame⟩) hNew
    · exact List.mem_singleton.mp hAdded

theorem mem_put_self (h : isSame x) : x ∈ put isSame x xs :=
  List.mem_of_find?_eq_some (find?_put h)

/-- The tables with more lines. -/
def addLines (t : Tables) (more : List Record) : Tables := { t with lines := t.lines ++ more }

theorem outcome?_putOutcome (t : Tables) (o : Outcome) : (t.putOutcome o).outcome? o.id = some o :=
  find?_put (beq_self_eq_true o.id)

end Tables

namespace Work

section Calls

variable {s s' : Session}

/-- Work that looks, changes the tables, commits and reads. It changes nothing, or makes its one
change; what it reads is of the tables that the change leaves. -/
theorem change_spec {α β γ : Type} {looked changed readBack : String} {look : Tables → α}
    {change : Tables → Except Fault (β × Tables)} {read : β → Tables → γ}
    {result : Except Breakdown γ} (hDraft : s.draft = s.database.tables)
    (h : exec (do
        let _ ← query looked look
        let b ← statement changed change
        commit
        query readBack (read b)) s = (result, s')) :
    (s'.database.tables = s.database.tables ∧ ∃ e, result = .error e) ∨
      ∃ t b t', s.database.tables = some t ∧ change t = .ok (b, t') ∧
        s'.database.tables = some t' ∧ ∀ c, result = .ok c → c = read b t' := by
  rcases bind_cases h with ⟨e, rfl, hLook⟩ | ⟨seen, s1, hLook, h⟩
  · exact .inl ⟨(query_spec hLook).1, e, rfl⟩
  obtain ⟨hTables1, hOk1⟩ := query_spec hLook
  obtain ⟨hDraft1, -⟩ := hOk1 seen rfl
  rcases bind_cases h with ⟨e, rfl, hChange⟩ | ⟨b, s2, hChange, h⟩
  · exact .inl ⟨(statement_spec hChange).1.trans hTables1, e, rfl⟩
  obtain ⟨hTables2, hOk2⟩ := statement_spec hChange
  obtain ⟨t, t', ht, hf, ht'⟩ := hOk2 b rfl
  have hTables : s.database.tables = some t := by rw [← hDraft, ← hDraft1, ht]
  rcases bind_cases h with ⟨e, rfl, hCommit⟩ | ⟨_, s3, hCommit, h⟩
  · rcases commit_spec hCommit with ⟨hOk, -⟩ | ⟨-, hTables3⟩
    · cases hOk
    · exact .inl ⟨hTables3.trans (hTables2.trans hTables1), e, rfl⟩
  -- The change is committed; the query that follows may still fail, but leaves the tables alone.
  rcases commit_spec hCommit with ⟨-, hTables3, hDraft3⟩ | ⟨⟨e, hError⟩, -⟩
  · obtain ⟨hTables4, hOk4⟩ := query_spec h
    refine .inr ⟨t, b, t', hTables, hf, hTables4.trans (hTables3.trans ht'), fun c hc => ?_⟩
    obtain ⟨-, t4, ht4, rfl⟩ := hOk4 c hc
    rw [Option.some.inj (ht4.symm.trans (hDraft3.trans ht'))]
  · cases hError

theorem recordWork_spec {o : Outcome} {result : Except Breakdown (Option Outcome)}
    (hDraft : s.draft = s.database.tables)
    (h : exec (Database.recordWork o) s = (result, s')) :
    (s'.database.tables = s.database.tables ∧ ∃ e, result = .error e) ∨
      ∃ t, s.database.tables = some t ∧ s'.database.tables = some (t.putOutcome o) ∧
        ∀ kept, result = .ok (some kept) → kept = o := by
  rcases change_spec hDraft h with hSame | ⟨t, _, t', ht, hPut, ht', hRead⟩
  · exact .inl hSame
  · obtain ⟨_, -, hSame⟩ := bind_eq_ok.mp hPut
    cases hSame
    refine .inr ⟨t, ht, ht', fun kept hKept => ?_⟩
    have hFound := hRead _ hKept
    rw [Tables.outcome?_putOutcome] at hFound
    exact Option.some.inj hFound

theorem headerWork_spec {header : Record} {result : Except Breakdown (Option Record)}
    (hDraft : s.draft = s.database.tables)
    (h : exec (Database.headerWork header) s = (result, s')) :
    (s'.database.tables = s.database.tables ∧ ∃ e, result = .error e) ∨
      ∃ t kept, s.database.tables = some t ∧ Database.keptRecord header = .ok kept ∧
        s'.database.tables = some (t.putHeader kept) ∧
        ∀ saved, result = .ok (some saved) → saved = kept := by
  rcases change_spec hDraft h with hSame | ⟨t, kept, t', ht, hPut, ht', hRead⟩
  · exact .inl hSame
  · obtain ⟨_, hKept, hSame⟩ := bind_eq_ok.mp hPut
    cases hSame
    exact .inr ⟨t, kept, ht, hKept, ht', fun saved hSaved => Option.some.inj (hRead _ hSaved)⟩

/-- Lines that are added, unless there are none, are added to a draft. -/
theorem addLines_spec {lines : List Record} {result : Except Breakdown Unit}
    (h : exec (lines.forM addLine) s = (result, s')) :
    s'.database.tables = s.database.tables ∧ (result = .ok () →
      (lines = [] ∧ s'.draft = s.draft) ∨
        ∃ t kept, s.draft = some t ∧ lines.mapM Database.keptRecord = .ok kept ∧
          s'.draft = some (t.addLines kept)) := by
  induction lines generalizing s with
  | nil =>
    cases h
    exact ⟨rfl, fun _ => .inl ⟨rfl, rfl⟩⟩
  | cons line rest ih =>
    change exec (addLine line >>= fun _ => rest.forM addLine) s = _ at h
    rcases bind_cases h with ⟨e, rfl, hAdd⟩ | ⟨_, s1, hAdd, h⟩
    · exact ⟨(statement_spec hAdd).1, nofun⟩
    obtain ⟨hTables1, hOk1⟩ := statement_spec hAdd
    obtain ⟨t, t', ht, hf, ht'⟩ := hOk1 () rfl
    obtain ⟨kept, hKept, hSame⟩ := bind_eq_ok.mp hf
    cases hSame
    obtain ⟨hTables2, hOk2⟩ := ih h
    refine ⟨hTables2.trans hTables1, fun hOk => .inr ?_⟩
    rcases hOk2 hOk with ⟨rfl, hDraft⟩ | ⟨t2, more, ht2, hMore, hDraft⟩
    · refine ⟨t, [kept], ht, ?_, hDraft.trans ht'⟩
      rw [List.mapM_cons, hKept]
      rfl
    · obtain rfl : t.addLine kept = t2 := Option.some.inj (ht'.symm.trans ht2)
      refine ⟨t, kept :: more, ht, ?_, ?_⟩
      · rw [List.mapM_cons, hKept, hMore]
        rfl
      · rw [hDraft, Tables.addLines, Tables.addLine, List.append_assoc]
        rfl

theorem linesWork_spec {lines : List Record} {result : Except Breakdown Unit}
    (hDraft : s.draft = s.database.tables)
    (h : exec (Database.linesWork lines) s = (result, s')) :
    (s'.database.tables = s.database.tables ∧ (result = .ok () → lines = [])) ∨
      ∃ t kept, s.database.tables = some t ∧ lines.mapM Database.keptRecord = .ok kept ∧
        s'.database.tables = some (t.addLines kept) := by
  unfold Database.linesWork at h
  rcases bind_cases h with ⟨e, rfl, hAdd⟩ | ⟨_, s1, hAdd, h⟩
  · exact .inl ⟨(addLines_spec hAdd).1, nofun⟩
  obtain ⟨hTables1, hOk1⟩ := addLines_spec hAdd
  rcases bind_cases h with ⟨e, rfl, hCommit⟩ | ⟨_, s2, hCommit, h⟩
  · rcases commit_spec hCommit with ⟨hOk, -⟩ | ⟨-, hTables2⟩
    · cases hOk
    · exact .inl ⟨hTables2.trans hTables1, nofun⟩
  rcases commit_spec hCommit with ⟨-, hTables2, -⟩ | ⟨⟨e, hError⟩, -⟩
  · cases h
    -- Without lines no statement has been run, so this succeeds even where there are no tables.
    rcases hOk1 rfl with ⟨hNil, hDraft1⟩ | ⟨t, kept, ht, hKept, hDraft1⟩
    · exact .inl ⟨hTables2.trans (hDraft1.trans hDraft), fun _ => hNil⟩
    · exact .inr ⟨t, kept, hDraft.symm.trans ht, hKept, hTables2.trans hDraft1⟩
  · cases hError

theorem rulesWork_spec {interfaceId : Option Nat} {table : String}
    {result : Except Breakdown (Option (List Rule))}
    (h : exec (do return some (← Database.rulesWork interfaceId table)) s = (result, s')) :
    s'.database.tables = s.database.tables := by
  unfold Database.rulesWork at h
  rcases bind_cases h with ⟨e, rfl, hRules⟩ | ⟨rules, s1, hRules, h⟩
  · rcases bind_cases hRules with ⟨e, -, hRules⟩ | ⟨found, s2, -, hRules⟩
    · exact (query_spec hRules).1
    · cases hRules
  · cases h
    rcases bind_cases hRules with ⟨e, hError, -⟩ | ⟨found, s2, hFound, hRules⟩
    · cases hError
    · cases hRules
      exact (query_spec hFound).1

end Calls

end Work

namespace Database

/-- What the tables of a database hold; nothing if they have not been created. -/
def contents (db : Database) : Tables := db.tables.getD {}

theorem contents_of_tables {db db' : Database} (h : db'.tables = db.tables) :
    db'.contents = db.contents := by
  rw [contents, contents, h]

/-- A call is work in a session of its own, and is answered if the work succeeds. -/
theorem serve_spec {α : Type} {call : Call} {work : Work α} {db db' : Database}
    {answer : Except String α} (h : (serve call work db).value = (answer, db')) :
    ∃ result s, Work.exec work ⟨db, db.tables, []⟩ = (result, s) ∧ s.database = db' ∧
      ∀ a, answer = .ok a → result = .ok a := by
  rcases hWork : Work.exec work ⟨db, db.tables, []⟩ with ⟨result, s⟩
  have hRun : (db.run work).value = (result, s.database) := by
    unfold Database.run
    unfold Work.exec at hWork
    rw [hWork]
  refine ⟨result, s, rfl, ?_⟩
  unfold serve at h
  rw [Logged.value_bind, hRun] at h
  match result, h with
  | .ok a, h =>
    cases h
    exact ⟨rfl, fun _ ha => by cases ha; rfl⟩
  | .error (.reported text), h =>
    cases h
    exact ⟨rfl, nofun⟩
  | .error (.fault fault), h =>
    cases h
    exact ⟨rfl, nofun⟩

section Repository

variable {db db' : Database}

theorem record_spec {o : Outcome} {answer : Except String (Option Outcome)}
    (h : (repository.record o db).value = (answer, db')) :
    (db'.contents = db.contents ∨ db'.contents = db.contents.putOutcome o) ∧
      ∀ kept, answer = .ok (some kept) → kept = o := by
  obtain ⟨result, s, hWork, rfl, hAnswer⟩ := serve_spec h
  rcases Work.recordWork_spec rfl hWork with ⟨hTables, e, rfl⟩ | ⟨t, hTables, hTables', hKept⟩
  · exact ⟨.inl (contents_of_tables hTables), fun kept hOk => nomatch hAnswer _ hOk⟩
  · refine ⟨.inr ?_, fun kept hOk => hKept kept (hAnswer _ hOk)⟩
    rw [contents, contents, hTables', show db.tables = some t from hTables]
    rfl

theorem rules_spec {interfaceId : Option Nat} {table : String}
    {answer : Except String (Option (List Rule))}
    (h : (repository.rules interfaceId table db).value = (answer, db')) :
    db'.contents = db.contents := by
  obtain ⟨result, s, hWork, rfl, -⟩ := serve_spec h
  exact contents_of_tables (Work.rulesWork_spec hWork)

theorem saveHeader_spec {header : Record} {answer : Except String (Option Record)}
    (h : (repository.saveHeader header db).value = (answer, db')) :
    (db'.contents = db.contents ∧ ∀ saved, answer ≠ .ok (some saved)) ∨
      ∃ kept, keptRecord header = .ok kept ∧ db'.contents = db.contents.putHeader kept ∧
        ∀ saved, answer = .ok (some saved) → saved = kept := by
  obtain ⟨result, s, hWork, rfl, hAnswer⟩ := serve_spec h
  rcases Work.headerWork_spec rfl hWork with
    ⟨hTables, e, rfl⟩ | ⟨t, kept, hTables, hKept, hTables', hSaved⟩
  · exact .inl ⟨contents_of_tables hTables, fun saved hOk => nomatch hAnswer _ hOk⟩
  · refine .inr ⟨kept, hKept, ?_, fun saved hOk => hSaved saved (hAnswer _ hOk)⟩
    rw [contents, contents, hTables', show db.tables = some t from hTables]
    rfl

theorem saveLines_spec {lines : List Record} {answer : Except String Unit}
    (h : (repository.saveLines lines db).value = (answer, db')) :
    (db'.contents = db.contents ∧ (answer = .ok () → lines = [])) ∨
      ∃ kept, lines.mapM keptRecord = .ok kept ∧
        db'.contents = db.contents.addLines kept := by
  obtain ⟨result, s, hWork, rfl, hAnswer⟩ := serve_spec h
  rcases Work.linesWork_spec rfl hWork with ⟨hTables, hNil⟩ | ⟨t, kept, ht, hKept, hTables⟩
  · exact .inl ⟨contents_of_tables hTables, fun hOk => hNil (hAnswer _ hOk)⟩
  · refine .inr ⟨kept, hKept, ?_⟩
    rw [contents, contents, hTables, show db.tables = some t from ht]
    rfl

/-- The database answers with the record of an attempt as it was given. -/
theorem repository_keepsOutcomes : repository.KeepsOutcomes := fun _ _ kept _ h =>
  (record_spec h).2 kept rfl

end Repository

end Database

end Intake
