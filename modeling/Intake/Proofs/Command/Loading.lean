import Intake.Command.Run
import Intake.Proofs.Config.Faults
import Intake.Proofs.Database.Atomic

/-! How the command that loads a configuration answers the file it is given. A configuration is
loaded, or it is refused before anything is asked of the database; the command shows one message
about it. Of a database that does not fail nothing else is to be feared, save for numbers that it
has no room for. What breaks down a load breaks down the command. -/

namespace Intake

namespace Command

/-- The messages among what has been shown. -/
def messages (lines : List Line) : List (Mark × String) :=
  lines.filterMap fun line => match line with
    | .message mark text => some (mark, text)
    | _ => none

theorem messages_append (a b : List Line) : messages (a ++ b) = messages a ++ messages b :=
  List.filterMap_append

@[simp] theorem messages_entries (log : List Log.Entry) : messages (log.map .entry) = [] := by
  rw [messages, List.filterMap_map]
  exact List.filterMap_eq_nil_iff.mpr fun _ _ => rfl

namespace Run

variable {α β : Type}

/-- What a step of a command gives, and the console that it leaves. -/
def exec (x : Run α) (c : Console) : Except Stop α × Console := x.run.run c

theorem exec_bind (x : Run α) (f : α → Run β) (c : Console) :
    exec (x >>= f) c =
      match exec x c with
      | (.ok a, c) => exec (f a) c
      | (.error e, c) => (.error e, c) := by
  simp only [exec, ExceptT.run_bind, StateT.run_bind]
  rcases (x.run.run c : Except Stop α × Console) with ⟨_ | _, _⟩ <;> rfl

/-- What is done through the connection is shown as entries of the log. -/
theorem exec_use {f : Connection.Use α} {c : Console} {a : α} {after : Connection}
    (h : (f c.connection).value = (.ok a, after)) :
    ∃ c', exec (use f) c = (.ok a, c') ∧ c'.connection = after ∧
      messages c'.lines = messages c.lines := by
  have hDone : f c.connection = ⟨(.ok a, after), (f c.connection).log⟩ := by rw [← h]
  have hUse : exec (use f) c = exec (use fun _ => f c.connection) c := rfl
  rw [hDone] at hUse
  exact ⟨_, hUse, rfl, by simp [messages_append]⟩

theorem exec_tryCatch (x : Run α) (f : Stop → Run α) (c : Console) :
    exec (tryCatch x f) c =
      match exec x c with
      | (.ok a, c) => (.ok a, c)
      | (.error e, c) => exec (f e) c := by
  show (ExceptT.run (tryCatch x f)).run c = _
  rw [ExceptT.run_tryCatch]
  simp only [exec, StateT.run_bind]
  rcases (x.run.run c : Except Stop α × Console) with ⟨_ | _, _⟩ <;> rfl

end Run

end Command

namespace Database

/-- The database once the tables that it lacks have been created. -/
def prepared (db : Database) : Database := { db.advanced 1 0 with tables := some db.contents }

theorem value_createTables {db : Database} (hCalm : ∀ n, db.outage n = none) :
    (createTables db).value = (.ok (), db.prepared) := by
  have hDone : Work.exec (modify (fun s => { s with draft := some (s.draft.getD {}) }) >>= fun _ =>
      Work.commit) ⟨db, db.tables, []⟩ = (.ok (), ⟨db.prepared, some db.contents, []⟩) := by
    rw [Work.exec_bind, Work.exec_modify]
    exact Work.commit_eq_ok.mpr ⟨hCalm _, rfl⟩
  unfold createTables Database.run
  unfold Work.exec at hDone
  rw [hDone]

end Database

namespace Connection

variable {c : Connection} {address : Address}

theorem value_openUp (h : Address.ofSettings c.settings = .ok address) :
    (openUp c).value = (.ok address, { c with isOpen := true }) := by
  obtain ⟨settings, isOpen, database⟩ := c
  unfold openUp
  rw [h]
  cases isOpen <;> rfl

theorem value_withDatabase {ε α : Type} (work : Database → Logged (Except ε α × Database))
    (h : Address.ofSettings c.settings = .ok address) :
    (withDatabase work c).value = (.ok (work c.database).value.1,
      { c with isOpen := true, database := (work c.database).value.2 }) := by
  unfold withDatabase
  rw [Logged.value_bind, value_openUp h]
  rfl

theorem value_createTables (h : Address.ofSettings c.settings = .ok address)
    (hCalm : ∀ n, c.database.outage n = none) :
    (createTables c).value =
      (.ok (), { c with isOpen := true, database := c.database.prepared }) := by
  have hTables : (changeTables "create" "creation" Database.createTables c).value =
      (.ok (), { c with isOpen := true, database := c.database.prepared }) := by
    unfold changeTables
    rw [Logged.value_bind, value_withDatabase _ h, Database.value_createTables hCalm]
    rfl
  unfold createTables
  rw [Logged.value_bind, Logged.value_bind, hTables]
  rfl

end Connection

namespace Command

/-- How a command ends, which messages it shows, and which tables it leaves. -/
structure EndsWith (x : Run Nat) (before : Console) (ending : Except Stop Nat)
    (shown : List (Mark × String)) (tables : Tables) : Prop where
  ending_eq : (x.exec before).1 = ending
  messages_eq : messages (x.exec before).2.lines = messages before.lines ++ shown
  tables_eq : (x.exec before).2.connection.database.tables = some tables

/-- What the command that loads configurations finds around it: the text in the file at the path,
and a database that can be reached and does not fail. -/
structure Finds (path text : String) (around : Surroundings) (r : Reading) (console : Console) :
    Prop where
  path_eq : Disk.plainPath ((Command.load.input? r).getD "") = path
  text_eq : ∃ bytes, around.file path = .ok bytes ∧ String.fromUTF8? ⟨bytes.toArray⟩ = some text
  address : ∃ address, Address.ofSettings console.connection.settings = .ok address
  calm : ∀ n, console.connection.database.outage n = none

section Answers

variable {path text : String} {around : Surroundings} {r : Reading} {console : Console}

theorem Finds.configAt_eq (h : Finds path text around r console) :
    configAt around path = .file path (.ok text) := by
  obtain ⟨bytes, hBytes, hText⟩ := h.text_eq
  rw [configAt, hBytes]
  simp only [hText]

/-- What the command makes of a load. -/
def answer : Except LoadFailure (Stored Interface) → Run Nat
  | .ok feed => do
    Run.say .success ("Mapping rules loaded for interface '" ++ feed.value.name ++ "'")
    return 0
  | .error (.config (.refused refusal)) => throw (.problem refusal.problem)
  | .error (.config (.fault fault)) => throw (.escape (.fault fault))
  | .error (.database (.reported text)) => throw (.problem (sessionProblem text))
  | .error (.database (.fault fault)) => throw (.escape (.fault fault))

/-- The command creates the tables and loads the file, both without a message, and then answers. -/
theorem Finds.exec_runLoad (h : Finds path text around r console) (keeps : Bool) :
    let load := console.connection.database.prepared.load (.file path (.ok text)) !keeps
    ∃ after : Console, messages after.lines = messages console.lines ∧
      after.connection.database = load.value.2 ∧
      (runLoad around ((Command.load.input? r).getD "") keeps).exec console =
        (answer load.value.1).exec after := by
  intro load
  obtain ⟨address, hAddress⟩ := h.address
  obtain ⟨between, hCreate, hBetween, hSilent⟩ :=
    Run.exec_use (Connection.value_createTables hAddress h.calm)
  have hReached : Address.ofSettings between.connection.settings = .ok address := by
    rw [hBetween]
    exact hAddress
  obtain ⟨after, hLoad, hAfter, hStill⟩ := Run.exec_use
    (Connection.value_withDatabase (fun db => db.load (.file path (.ok text)) !keeps) hReached)
  have hParts : runLoad around ((Command.load.input? r).getD "") keeps =
      Run.use Connection.createTables >>= fun _ =>
        Run.use (Connection.withDatabase fun db =>
          db.load (configAt around (Disk.plainPath ((Command.load.input? r).getD ""))) !keeps) >>=
            answer := rfl
  have hDatabase : between.connection.database = console.connection.database.prepared := by
    rw [hBetween]
  rw [hDatabase] at hLoad hAfter
  refine ⟨after, hStill.trans hSilent, by rw [hAfter], ?_⟩
  rw [hParts, h.path_eq, h.configAt_eq, Run.exec_bind, hCreate]
  dsimp only
  rw [Run.exec_bind, hLoad]

/-- How the command ends after a load, and the message that it shows. -/
def ending : Except LoadFailure (Stored Interface) → Except Stop Nat × List (Mark × String)
  | .ok feed =>
    (.ok 0, [(.success, "Mapping rules loaded for interface '" ++ feed.value.name ++ "'")])
  | .error (.config (.refused refusal)) => (.ok 1, [(.error, refusal.message)])
  | .error (.config (.fault fault)) => (.error (.escape (.fault fault)), [])
  | .error (.database (.reported text)) => (.ok 1, [(.error, (sessionProblem text).message)])
  | .error (.database (.fault fault)) => (.error (.escape (.fault fault)), [])

/-- What the command does about what would end it. -/
def handle : Stop → Run Nat
  | .problem p => reportProblem .load p
  | .escape e => throw (.escape e)

theorem exec_reportProblem (p : Problem) (c : Console) : ∃ entry,
    (reportProblem .load p).exec c =
      (.ok 1, { c with lines := c.lines ++ [.entry entry] ++ [.message .error p.message] }) :=
  ⟨_, rfl⟩

theorem exec_answer (result : Except LoadFailure (Stored Interface)) (c : Console) :
    ∃ lines, (tryCatch (answer result) handle).exec c =
        ((ending result).1, { c with lines }) ∧
      messages lines = messages c.lines ++ (ending result).2 := by
  rw [Run.exec_tryCatch]
  match result with
  | .ok feed => exact ⟨_, rfl, messages_append _ _⟩
  | .error (.config (.refused refusal)) =>
    obtain ⟨entry, hReport⟩ := exec_reportProblem refusal.problem c
    refine ⟨_, hReport, ?_⟩
    rw [messages_append, messages_append, List.append_assoc]
    rfl
  | .error (.database (.reported text)) =>
    obtain ⟨entry, hReport⟩ := exec_reportProblem (sessionProblem text) c
    refine ⟨_, hReport, ?_⟩
    rw [messages_append, messages_append, List.append_assoc]
    rfl
  | .error (.config (.fault fault)) => exact ⟨c.lines, rfl, (List.append_nil _).symm⟩
  | .error (.database (.fault fault)) => exact ⟨c.lines, rfl, (List.append_nil _).symm⟩

/-- The command ends as the load of the file does. -/
theorem Finds.endsWith (h : Finds path text around r console) {t : Tables}
    {result : Except LoadFailure (Stored Interface)} {db : Database}
    (hLoad : (console.connection.database.prepared.load (.file path (.ok text))
      !r.has "--append").value = (result, db)) (hTables : db.tables = some t) :
    EndsWith (run around .load r) console (ending result).1 (ending result).2 t := by
  obtain ⟨after, hSilent, hDatabase, hExec⟩ := h.exec_runLoad (r.has "--append")
  rw [hLoad] at hDatabase hExec
  obtain ⟨lines, hAnswer, hMessages⟩ := exec_answer result after
  have hParts : run around .load r =
      tryCatch (runLoad around ((Command.load.input? r).getD "") (r.has "--append")) handle := rfl
  have hRun : (run around .load r).exec console = ((ending result).1, { after with lines }) := by
    rw [← hAnswer, hParts, Run.exec_tryCatch, hExec, Run.exec_tryCatch]
  refine ⟨by rw [hRun], ?_, ?_⟩
  · rw [hRun, hMessages, hSilent]
  · rw [hRun, hDatabase, hTables]

end Answers

/-- A configuration in a file is loaded into any database with tables that does not fail, and the
command says so. -/
structure Loads (path text : String) (c : Config) : Prop where
  load : ∀ (db : Database) t replace, db.tables = some t → (∀ n, db.outage n = none) →
    (db.load (.file path (.ok text)) replace).value =
      (.ok ⟨t.feedId c.interface db.nextId, c.interface⟩, db.loaded t c replace)
  run : ∀ around r console, Finds path text around r console →
    EndsWith (run around .load r) console (.ok 0)
      [(.success, "Mapping rules loaded for interface '" ++ c.interface.name ++ "'")]
      (console.connection.database.contents.loaded c (!r.has "--append")
        console.connection.database.nextId)

/-- A file stops a load before anything is asked of a database, and the command ends in some way. -/
structure Stops (path text : String) (failure : Config.Failure) (ending : Except Stop Nat)
    (shown : List (Mark × String)) : Prop where
  load : ∀ (db : Database) replace,
    db.load (.file path (.ok text)) replace = ⟨(.error (.config failure), db), []⟩
  run : ∀ around r console, Finds path text around r console →
    EndsWith (run around .load r) console ending shown console.connection.database.contents

/-- A file holds a number that no database has room for, which ends a load and the command; nothing
is committed. -/
structure Overflows (path text : String) : Prop where
  load : ∀ (db : Database) t replace, db.tables = some t → (∀ n, db.outage n = none) →
    (db.load (.file path (.ok text)) replace).value.1 =
        .error (.database (.fault .unstorableWhole)) ∧
      (db.load (.file path (.ok text)) replace).value.2.tables = db.tables
  run : ∀ around r console, Finds path text around r console →
    EndsWith (run around .load r) console (.error (.escape (.fault .unstorableWhole))) []
      console.connection.database.contents

section Files

variable {path text : String}

theorem loads_of_read {c : Config} (hRead : (Config.Source.file path (.ok text)).read = .ok c)
    (hRoom : Work.Storable c) : Loads path text c := by
  have hLoad : ∀ (db : Database) t replace, db.tables = some t → (∀ n, db.outage n = none) →
      (db.load (.file path (.ok text)) replace).value =
        (.ok ⟨t.feedId c.interface db.nextId, c.interface⟩, db.loaded t c replace) :=
    fun db t replace ht hCalm =>
      Database.load_eq_ok.mpr ⟨c, t, hRead, ht, hRoom, fun k _ => hCalm _, rfl, rfl⟩
  refine ⟨hLoad, fun around r console h => ?_⟩
  exact h.endsWith (hLoad _ _ _ rfl h.calm) rfl

theorem stops_of_read {failure : Config.Failure}
    (hRead : (Config.Source.file path (.ok text)).read = .error failure) :
    Stops path text failure (ending (.error (.config failure))).1
      (ending (.error (.config failure))).2 :=
  ⟨fun db replace => Database.load_of_failure db replace hRead, fun _ _ _ h =>
    h.endsWith (congrArg Logged.value (Database.load_of_failure _ _ hRead)) rfl⟩

theorem overflows_of_read {c : Config} (hRead : (Config.Source.file path (.ok text)).read = .ok c)
    (hRoom : ¬Work.Storable c) : Overflows path text := by
  have hLoad : ∀ (db : Database) t replace, db.tables = some t → (∀ n, db.outage n = none) →
      (db.load (.file path (.ok text)) replace).value.1 =
          .error (.database (.fault .unstorableWhole)) ∧
        (db.load (.file path (.ok text)) replace).value.2.tables = db.tables :=
    fun db t replace ht hCalm => Database.load_of_not_storable ht hCalm hRead hRoom
  refine ⟨hLoad, fun around r console h => ?_⟩
  obtain ⟨hResult, hTables⟩ := hLoad console.connection.database.prepared _ (!r.has "--append") rfl
    h.calm
  exact h.endsWith (Prod.ext hResult rfl) hTables

end Files

end Command

end Intake
