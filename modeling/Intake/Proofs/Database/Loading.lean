import Intake.Database.Loading
import Intake.Proofs.Database.Session

/-! What loading a configuration does to a database. A load that succeeds has made all its
statements, and leaves the tables with the feed and its rules. A load that fails leaves the tables
as they are, or, where it breaks down after its commit, as a load that succeeds. -/

namespace Intake

/-- Rules as a feed has them, with the identities from `next` on. -/
def feedRules (id : Nat) (owner : Option Int) (next : Nat) (rules : List Rule) :
    List (Stored FeedRule) :=
  (rules.zipIdx next).map fun (rule, k) => ⟨k, ⟨some id, owner, rule⟩⟩

theorem feedRules_cons (id : Nat) (owner : Option Int) (next : Nat) (rule : Rule)
    (rules : List Rule) :
    feedRules id owner next (rule :: rules) =
      ⟨next, ⟨some id, owner, rule⟩⟩ :: feedRules id owner (next + 1) rules := by
  simp [feedRules]

theorem mem_feedRules {id next : Nat} {owner : Option Int} {rules : List Rule}
    {r : Stored FeedRule} (h : r ∈ feedRules id owner next rules) :
    r.value.interfaceId = some id ∧ r.value.clientId = owner ∧ r.value.rule ∈ rules ∧
      next ≤ r.id ∧ r.id < next + rules.length := by
  obtain ⟨⟨rule, k⟩, hMem, rfl⟩ := List.mem_map.mp h
  obtain ⟨hLow, hHigh, hRule⟩ := List.mem_zipIdx hMem
  exact ⟨rfl, rfl, hRule ▸ List.getElem_mem _, hLow, hHigh⟩

theorem feedRules_map_rule (id : Nat) (owner : Option Int) (next : Nat) (rules : List Rule) :
    (feedRules id owner next rules).map (fun r => r.value.rule) = rules := by
  induction rules generalizing next with
  | nil => rfl
  | cons rule rest ih => rw [feedRules_cons, List.map_cons, ih]

namespace Tables

/-- The feed that a configuration of `i` is for. -/
def feed? (t : Tables) (i : Interface) : Option (Stored Interface) :=
  t.interface? i.name i.clientId

/-- The identity of the feed of `i`; a new feed takes `next`. -/
def feedId (t : Tables) (i : Interface) (next : Nat) : Nat := ((t.feed? i).map Stored.id).getD next

/-- How many identities the feed of `i` takes. -/
def feedIds (t : Tables) (i : Interface) : Nat := if (t.feed? i).isSome then 0 else 1

/-- The tables once a configuration is loaded, with `next` as the first identity that is free. -/
def loaded (t : Tables) (c : Config) (replace : Bool) (next : Nat) : Tables :=
  let id := t.feedId c.interface next
  let kept := if replace then (t.putInterface ⟨id, c.interface⟩).removeRules id
    else t.putInterface ⟨id, c.interface⟩
  { kept with
    rules := kept.rules ++
      feedRules id c.interface.clientId (next + t.feedIds c.interface) c.rules }

end Tables

/-- Nothing befalls `n` statements, the first of which has the number `first`. -/
def Calm (outage : Nat → Option String) (first n : Nat) : Prop :=
  ∀ k < n, outage (first + k) = none

theorem calm_one {outage : Nat → Option String} {first : Nat} :
    Calm outage first 1 ↔ outage first = none := by
  simp [Calm]

theorem calm_add {outage : Nat → Option String} {first m n : Nat} :
    Calm outage first (m + n) ↔ Calm outage first m ∧ Calm outage (first + m) n := by
  constructor
  · intro h
    refine ⟨fun k hk => h k (by omega), fun k hk => ?_⟩
    rw [Nat.add_assoc]
    exact h (m + k) (by omega)
  · rintro ⟨hFirst, hRest⟩ k hk
    by_cases hLow : k < m
    · exact hFirst k hLow
    · have hLater := hRest (k - m) (by omega)
      rwa [show first + m + (k - m) = first + k by omega] at hLater

namespace Database

/-- The database once it has counted more statements and given out more identities. -/
def advanced (db : Database) (statements ids : Nat) : Database :=
  { db with count := db.count + statements, nextId := db.nextId + ids }

@[simp] theorem advanced_tables (db : Database) (n m : Nat) :
    (db.advanced n m).tables = db.tables := rfl

@[simp] theorem advanced_outage (db : Database) (n m : Nat) :
    (db.advanced n m).outage = db.outage := rfl

@[simp] theorem advanced_count (db : Database) (n m : Nat) :
    (db.advanced n m).count = db.count + n := rfl

@[simp] theorem advanced_nextId (db : Database) (n m : Nat) :
    (db.advanced n m).nextId = db.nextId + m := rfl

@[simp] theorem advanced_advanced (db : Database) (n m n' m' : Nat) :
    (db.advanced n m).advanced n' m' = db.advanced (n + n') (m + m') := by
  simp only [advanced, Nat.add_assoc]

@[simp] theorem advanced_zero (db : Database) : db.advanced 0 0 = db := rfl

end Database

namespace Work

section Statements

variable {α β : Type} {s s' : Session} {table : String}

theorem exec_bind_eq_ok {x : Work α} {f : α → Work β} {b : β} :
    exec (x >>= f) s = (.ok b, s') ↔
      ∃ a between, exec x s = (.ok a, between) ∧ exec (f a) between = (.ok b, s') := by
  constructor
  · intro h
    rcases bind_cases h with ⟨e, hError, -⟩ | hGoes
    · cases hError
    · exact hGoes
  · rintro ⟨a, between, hFirst, hSecond⟩
    rw [exec_bind, hFirst]
    exact hSecond

@[simp] theorem exec_note (origin : Log.Origin) (level : Log.Level) (message : String)
    (s : Session) :
    exec (note origin level message) s =
      (.ok .unit, { s with log := s.log ++ [⟨origin, level, message, []⟩] }) := rfl

@[simp] theorem exec_freshId (s : Session) :
    exec freshId s =
      (.ok s.database.nextId, ⟨s.database.advanced 0 1, s.draft, s.log⟩) := rfl

theorem exec_count (s : Session) :
    exec count s =
      match s.database.outage s.database.count with
      | some text => (.error (.reported text), ⟨s.database.advanced 1 0, s.draft, s.log⟩)
      | none => (.ok (), ⟨s.database.advanced 1 0, s.draft, s.log⟩) := by
  unfold count
  simp only [exec_bind, exec_get, exec_set]
  cases s.database.outage s.database.count <;> rfl

theorem count_eq_ok : exec count s = (.ok (), s') ↔
    s.database.outage s.database.count = none ∧
      s' = ⟨s.database.advanced 1 0, s.draft, s.log⟩ := by
  rw [exec_count]
  cases s.database.outage s.database.count with
  | some text => simp
  | none => simp [eq_comm]

theorem exec_statement (table : String) (f : Tables → Except Fault (α × Tables)) (s : Session) :
    exec (statement table f) s =
      match s.database.outage s.database.count, s.draft with
      | some text, _ => (.error (.reported text), ⟨s.database.advanced 1 0, s.draft, s.log⟩)
      | none, none => (.error (.noTable table), ⟨s.database.advanced 1 0, s.draft, s.log⟩)
      | none, some t =>
        match f t with
        | .error fault => (.error (.fault fault), ⟨s.database.advanced 1 0, s.draft, s.log⟩)
        | .ok (a, t') => (.ok a, ⟨s.database.advanced 1 0, some t', s.log⟩) := by
  unfold statement
  rw [exec_bind, exec_count]
  cases s.database.outage s.database.count with
  | some text => rfl
  | none =>
    simp only [exec_bind, exec_get]
    cases s.draft with
    | none => rfl
    | some t =>
      simp only
      cases f t with
      | error fault => rfl
      | ok changed => rfl

/-- A statement succeeds if nothing befalls it, the tables are there, and it can be done. -/
theorem statement_eq_ok {f : Tables → Except Fault (α × Tables)} {a : α} :
    exec (statement table f) s = (.ok a, s') ↔
      s.database.outage s.database.count = none ∧
        ∃ t t', s.draft = some t ∧ f t = .ok (a, t') ∧
          s' = ⟨s.database.advanced 1 0, some t', s.log⟩ := by
  rw [exec_statement]
  constructor
  · intro h
    split at h
    · cases h
    · cases h
    · next t hCalm ht =>
      split at h
      · cases h
      · next a' t' hf =>
        cases h
        exact ⟨hCalm, t, t', ht, hf, rfl⟩
  · rintro ⟨hCalm, t, t', ht, hf, rfl⟩
    rw [hCalm, ht]
    simp only [hf]

theorem query_eq_ok {f : Tables → α} {a : α} :
    exec (query table f) s = (.ok a, s') ↔
      s.database.outage s.database.count = none ∧
        ∃ t, s.draft = some t ∧ a = f t ∧
          s' = ⟨s.database.advanced 1 0, some t, s.log⟩ := by
  rw [query, statement_eq_ok]
  refine and_congr_right fun _ => ⟨?_, ?_⟩
  · rintro ⟨t, t', ht, hf, rfl⟩
    cases hf
    exact ⟨t, ht, rfl, rfl⟩
  · rintro ⟨t, ht, rfl, rfl⟩
    exact ⟨t, t, ht, rfl, rfl⟩

theorem commit_eq_ok : exec commit s = (.ok (), s') ↔
    s.database.outage s.database.count = none ∧
      s' = ⟨{ s.database.advanced 1 0 with tables := s.draft }, s.draft, s.log⟩ := by
  unfold commit
  rw [exec_bind_eq_ok]
  constructor
  · rintro ⟨_, between, hCount, h⟩
    obtain ⟨hCalm, rfl⟩ := count_eq_ok.mp hCount
    cases h
    exact ⟨hCalm, rfl⟩
  · rintro ⟨hCalm, rfl⟩
    exact ⟨(), _, count_eq_ok.mpr ⟨hCalm, rfl⟩, rfl⟩

end Statements

/-! ### Successful loads -/

/-- The identity of a feed that has been looked up, or a new one. -/
def identify : Option (Stored Interface) → Work Nat
  | some feed => pure feed.id
  | none => freshId

/-- Makes an entry about the feed of a configuration and stores the feed; gives its identity. -/
def openFeed (i : Interface) : Work Nat := do
  let found ← interface? i.name i.clientId
  let id ← identify found
  note .loading .info ((if found.isSome then "Updating" else "Creating") ++ " interface " ++ i.name)
  putInterface ⟨id, i⟩
  return id

/-- Removes the rules of a feed, if they are to be replaced. -/
def clearRules (replace : Bool) (id : Nat) : Work Unit :=
  if replace then removeRules id else pure ()

/-- Adds the rules of a feed. -/
def addRules (id : Nat) (owner : Option Int) (rules : List Rule) : Work Unit :=
  rules.forM fun rule => do addRule ⟨← freshId, ⟨some id, owner, rule⟩⟩

/-- Reads the feed again and makes an entry about its rules. -/
def confirm (c : Config) (id : Nat) : Work (Stored Interface) := do
  query "interfaces" fun _ => ()
  note .loading .info
    ("Loaded " ++ toString c.rules.length ++ " mapping rules for interface " ++ c.interface.name)
  return ⟨id, c.interface⟩

/-- All that a load does to its draft. -/
def fill (c : Config) (replace : Bool) : Work Nat := do
  let id ← openFeed c.interface
  clearRules replace id
  addRules id c.interface.clientId c.rules
  return id

/-- A load in its parts: it changes its draft, commits it and reads the feed again. -/
theorem loadWork_eq (c : Config) (replace : Bool) :
    Database.loadWork c replace = (do
      let id ← fill c replace
      commit
      confirm c id) := by
  simp only [Database.loadWork, fill, openFeed, identify, clearRules, addRules, confirm, bind_assoc,
    pure_bind]
  refine bind_congr fun found => ?_
  cases found <;> cases replace <;> simp

/-- The session of a load commits once more. -/
theorem loadWork_parts (c : Config) (replace : Bool) :
    (Database.loadWork c replace <* commit) = (do
      let id ← fill c replace
      commit
      let stored ← confirm c id
      commit
      return stored) := by
  show (Database.loadWork c replace >>= fun stored => commit >>= fun _ => pure stored) = _
  simp only [loadWork_eq, bind_assoc]

section Parts

variable {s s' : Session} {t : Tables}

theorem exec_identify (found : Option (Stored Interface)) (s : Session) :
    exec (identify found) s =
      (.ok ((found.map Stored.id).getD s.database.nextId),
        ⟨s.database.advanced 0 (if found.isSome then 0 else 1), s.draft, s.log⟩) := by
  cases found <;> rfl

/-- The entry about the feed of `i`. -/
def feedEntry (t : Tables) (i : Interface) : Log.Entry :=
  ⟨.loading, .info,
    (if (t.feed? i).isSome then "Updating" else "Creating") ++ " interface " ++ i.name, []⟩

theorem openFeed_eq_ok {i : Interface} {id : Nat} (hDraft : s.draft = some t) :
    exec (openFeed i) s = (.ok id, s') ↔
      Calm s.database.outage s.database.count 2 ∧ Database.checkRoom i.clientId = .ok () ∧
        id = t.feedId i s.database.nextId ∧
        s' = ⟨s.database.advanced 2 (t.feedIds i), some (t.putInterface ⟨id, i⟩),
          s.log ++ [feedEntry t i]⟩ := by
  rw [show 2 = 1 + 1 from rfl, calm_add, calm_one, calm_one]
  unfold openFeed
  simp only [exec_bind_eq_ok, exec_identify, exec_note, exec_pure]
  constructor
  · rintro ⟨found, s1, hFound, id', s2, hId, _, s3, hNote, _, s4, hPut, hLast⟩
    obtain ⟨hCalm1, t1, _, ht1, hLook, rfl⟩ := statement_eq_ok.mp hFound
    obtain rfl : t = t1 := Option.some.inj (hDraft.symm.trans ht1)
    obtain ⟨_, hRoom, hSame⟩ := Intake.bind_eq_ok.mp hLook
    cases hSame
    cases hId
    cases hNote
    cases hLast
    obtain ⟨hCalm2, t2, _, ht2, hStore, rfl⟩ := statement_eq_ok.mp hPut
    cases ht2
    obtain ⟨_, -, hSame⟩ := Intake.bind_eq_ok.mp hStore
    cases hSame
    exact ⟨⟨hCalm1, hCalm2⟩, hRoom, rfl, rfl⟩
  · rintro ⟨⟨hCalm1, hCalm2⟩, hRoom, rfl, rfl⟩
    refine ⟨t.feed? i, _, statement_eq_ok.mpr ⟨hCalm1, t, t, hDraft, ?_, rfl⟩, _, _, rfl, _, _, rfl,
      (), _, statement_eq_ok.mpr ⟨hCalm2, t, _, rfl, ?_, rfl⟩, rfl⟩
    · rw [hRoom]
      rfl
    · rw [hRoom]
      rfl

theorem clearRules_eq_ok {replace : Bool} {id : Nat} (hDraft : s.draft = some t) :
    exec (clearRules replace id) s = (.ok (), s') ↔
      Calm s.database.outage s.database.count (if replace then 1 else 0) ∧
        s' = ⟨s.database.advanced (if replace then 1 else 0) 0,
          some (if replace then t.removeRules id else t), s.log⟩ := by
  cases replace with
  | false =>
    have hSame : s = ⟨s.database.advanced 0 0, some t, s.log⟩ := by rw [← hDraft]; rfl
    simp only [clearRules, exec_pure, Bool.false_eq_true, if_false, Prod.mk.injEq, true_and]
    constructor
    · rintro rfl
      exact ⟨nofun, hSame⟩
    · rintro ⟨-, rfl⟩
      exact hSame
  | true =>
    simp only [clearRules, removeRules, if_true, calm_one, statement_eq_ok]
    refine and_congr_right fun _ => ⟨?_, ?_⟩
    · rintro ⟨t1, _, ht1, hf, rfl⟩
      obtain rfl : t = t1 := Option.some.inj (hDraft.symm.trans ht1)
      cases hf
      rfl
    · rintro rfl
      exact ⟨t, _, hDraft, rfl, rfl⟩

/-- Whether a rule of a feed can be stored. -/
def Fits (owner : Option Int) (rule : Rule) : Prop :=
  Database.checkRoom rule.priority = .ok () ∧ Database.checkRoom owner = .ok ()

theorem addRule_eq_ok {r : Stored FeedRule} (hDraft : s.draft = some t) :
    exec (addRule r) s = (.ok (), s') ↔
      s.database.outage s.database.count = none ∧ Fits r.value.clientId r.value.rule ∧
        s' = ⟨s.database.advanced 1 0, some (t.addRule r), s.log⟩ := by
  rw [addRule, statement_eq_ok]
  refine and_congr_right fun _ => ⟨?_, ?_⟩
  · rintro ⟨t1, _, ht1, hf, rfl⟩
    obtain rfl : t = t1 := Option.some.inj (hDraft.symm.trans ht1)
    obtain ⟨_, hPriority, hf⟩ := Intake.bind_eq_ok.mp hf
    obtain ⟨_, hOwner, hf⟩ := Intake.bind_eq_ok.mp hf
    cases hf
    exact ⟨⟨hPriority, hOwner⟩, rfl⟩
  · rintro ⟨⟨hPriority, hOwner⟩, rfl⟩
    refine ⟨t, _, hDraft, ?_, rfl⟩
    rw [hPriority, hOwner]
    rfl

theorem addRules_cons (id : Nat) (owner : Option Int) (rule : Rule) (rest : List Rule) :
    addRules id owner (rule :: rest) = (do
      let k ← freshId
      addRule ⟨k, ⟨some id, owner, rule⟩⟩
      addRules id owner rest) := by
  simp [addRules]

theorem addRules_eq_ok {id : Nat} {owner : Option Int} {rules : List Rule}
    (hDraft : s.draft = some t) :
    exec (addRules id owner rules) s = (.ok (), s') ↔
      Calm s.database.outage s.database.count rules.length ∧ (∀ rule ∈ rules, Fits owner rule) ∧
        s' = ⟨s.database.advanced rules.length rules.length,
          some { t with rules := t.rules ++ feedRules id owner s.database.nextId rules },
          s.log⟩ := by
  induction rules generalizing s t with
  | nil =>
    have hNone : addRules id owner [] = pure () := rfl
    have hSame : s = ⟨s.database, some t, s.log⟩ := by rw [← hDraft]
    simp only [hNone, exec_pure, Prod.mk.injEq, true_and]
    constructor
    · rintro rfl
      exact ⟨nofun, nofun, by simpa [feedRules] using hSame⟩
    · rintro ⟨-, -, rfl⟩
      simpa [feedRules] using hSame
  | cons rule rest ih =>
    have hFresh : (⟨s.database.advanced 0 1, s.draft, s.log⟩ : Session).draft = some t := hDraft
    rw [addRules_cons, List.length_cons, Nat.add_comm, calm_add, calm_one]
    simp only [exec_bind_eq_ok, exec_freshId]
    constructor
    · rintro ⟨k, s1, hId, _, s2, hAdd, hRest⟩
      cases hId
      obtain ⟨hCalm, hFits, rfl⟩ := (addRule_eq_ok hFresh).mp hAdd
      obtain ⟨hCalms, hAll, rfl⟩ := (ih rfl).mp hRest
      refine ⟨⟨hCalm, hCalms⟩, List.forall_mem_cons.mpr ⟨hFits, hAll⟩, ?_⟩
      simp [feedRules_cons, Tables.addRule]
    · rintro ⟨⟨hCalm, hCalms⟩, hAll, rfl⟩
      obtain ⟨hFits, hAll⟩ := List.forall_mem_cons.mp hAll
      have hAdd := (addRule_eq_ok (r := ⟨s.database.nextId, ⟨some id, owner, rule⟩⟩) hFresh).mpr
        ⟨hCalm, hFits, rfl⟩
      refine ⟨_, _, rfl, (), _, hAdd, (ih rfl).mpr ⟨hCalms, hAll, ?_⟩⟩
      simp [feedRules_cons, Tables.addRule]

/-- Whether a database has room for the numbers of a configuration. -/
def Storable (c : Config) : Prop :=
  Database.checkRoom c.interface.clientId = .ok () ∧
    ∀ rule ∈ c.rules, Fits c.interface.clientId rule

/-- How many statements a load makes before it commits. -/
def fillSteps (c : Config) (replace : Bool) : Nat :=
  2 + ((if replace then 1 else 0) + c.rules.length)

theorem fill_eq_ok {c : Config} {replace : Bool} {id : Nat} (hDraft : s.draft = some t) :
    exec (fill c replace) s = (.ok id, s') ↔
      Calm s.database.outage s.database.count (fillSteps c replace) ∧ Storable c ∧
        id = t.feedId c.interface s.database.nextId ∧
        s' = ⟨s.database.advanced (fillSteps c replace) (t.feedIds c.interface + c.rules.length),
          some (t.loaded c replace s.database.nextId), s.log ++ [feedEntry t c.interface]⟩ := by
  unfold fill fillSteps
  rw [calm_add, calm_add]
  simp only [exec_bind_eq_ok, exec_pure]
  constructor
  · rintro ⟨id', s1, hOpen, _, s2, hClear, _, s3, hAdd, hLast⟩
    cases hLast
    obtain ⟨hCalm1, hRoom, rfl, rfl⟩ := (openFeed_eq_ok hDraft).mp hOpen
    obtain ⟨hCalm2, rfl⟩ := (clearRules_eq_ok rfl).mp hClear
    obtain ⟨hCalm3, hFits, rfl⟩ := (addRules_eq_ok rfl).mp hAdd
    refine ⟨⟨hCalm1, hCalm2, hCalm3⟩, ⟨hRoom, hFits⟩, rfl, ?_⟩
    simp [Tables.loaded, Nat.add_assoc]
  · rintro ⟨⟨hCalm1, hCalm2, hCalm3⟩, ⟨hRoom, hFits⟩, rfl, rfl⟩
    refine ⟨_, _, (openFeed_eq_ok hDraft).mpr ⟨hCalm1, hRoom, rfl, rfl⟩,
      (), _, (clearRules_eq_ok rfl).mpr ⟨hCalm2, rfl⟩,
      (), _, (addRules_eq_ok rfl).mpr ⟨hCalm3, hFits, rfl⟩, ?_⟩
    simp [Tables.loaded, Nat.add_assoc]

/-- Without tables a load does not get past its first statement. -/
theorem exists_tables_of_fill {c : Config} {replace : Bool} {id : Nat}
    (h : exec (fill c replace) s = (.ok id, s')) : ∃ t, s.draft = some t := by
  obtain ⟨_, s1, hOpen, -⟩ := exec_bind_eq_ok.mp h
  obtain ⟨found, s2, hFound, -⟩ := exec_bind_eq_ok.mp hOpen
  obtain ⟨-, t, _, ht, -⟩ := statement_eq_ok.mp hFound
  exact ⟨t, ht⟩

theorem confirm_eq_ok {c : Config} {id : Nat} {i : Stored Interface} (hDraft : s.draft = some t) :
    exec (confirm c id) s = (.ok i, s') ↔
      s.database.outage s.database.count = none ∧ i = ⟨id, c.interface⟩ ∧
        s' = ⟨s.database.advanced 1 0, some t, s.log ++ [⟨.loading, .info,
          "Loaded " ++ toString c.rules.length ++ " mapping rules for interface " ++
            c.interface.name, []⟩]⟩ := by
  unfold confirm
  simp only [exec_bind_eq_ok, exec_note, exec_pure]
  constructor
  · rintro ⟨_, s1, hQuery, _, s2, hNote, hLast⟩
    obtain ⟨hCalm, t1, ht1, -, rfl⟩ := query_eq_ok.mp hQuery
    obtain rfl : t = t1 := Option.some.inj (hDraft.symm.trans ht1)
    cases hNote
    cases hLast
    exact ⟨hCalm, rfl, rfl⟩
  · rintro ⟨hCalm, rfl, rfl⟩
    exact ⟨(), _, query_eq_ok.mpr ⟨hCalm, t, hDraft, rfl, rfl⟩, _, _, rfl, rfl⟩

end Parts

end Work

namespace Database

open Work

/-- The database once a configuration is loaded into it. -/
def loaded (db : Database) (t : Tables) (c : Config) (replace : Bool) : Database :=
  { db.advanced (fillSteps c replace + 3) (t.feedIds c.interface + c.rules.length) with
    tables := some (t.loaded c replace db.nextId) }

/-- The session in which a configuration has been loaded, before it commits of its own. -/
def loadedSession (db : Database) (t : Tables) (c : Config) (replace : Bool) : Session :=
  ⟨{ db.advanced (fillSteps c replace + 2) (t.feedIds c.interface + c.rules.length) with
      tables := some (t.loaded c replace db.nextId) },
    some (t.loaded c replace db.nextId),
    [feedEntry t c.interface, ⟨.loading, .info,
      "Loaded " ++ toString c.rules.length ++ " mapping rules for interface " ++
        c.interface.name, []⟩]⟩

theorem exec_loadWork_eq_ok {db : Database} {c : Config} {replace : Bool} {i : Stored Interface}
    {s : Session} :
    exec (loadWork c replace) ⟨db, db.tables, []⟩ = (.ok i, s) ↔
      ∃ t, db.tables = some t ∧ Storable c ∧
        Calm db.outage db.count (fillSteps c replace + 2) ∧
        i = ⟨t.feedId c.interface db.nextId, c.interface⟩ ∧ s = db.loadedSession t c replace := by
  rw [loadWork_eq, calm_add, show 2 = 1 + 1 from rfl, calm_add, calm_one, calm_one]
  simp only [exec_bind_eq_ok]
  constructor
  · rintro ⟨id, s1, hFill, _, s2, hCommit, hConfirm⟩
    obtain ⟨t, ht⟩ := exists_tables_of_fill hFill
    obtain ⟨hCalm1, hStorable, rfl, rfl⟩ := (fill_eq_ok ht).mp hFill
    obtain ⟨hCalm2, rfl⟩ := commit_eq_ok.mp hCommit
    obtain ⟨hCalm3, rfl, rfl⟩ := (confirm_eq_ok rfl).mp hConfirm
    exact ⟨t, ht, hStorable, ⟨hCalm1, hCalm2, hCalm3⟩, rfl, rfl⟩
  · rintro ⟨t, ht, hStorable, ⟨hCalm1, hCalm2, hCalm3⟩, rfl, rfl⟩
    exact ⟨_, _, (fill_eq_ok ht).mpr ⟨hCalm1, hStorable, rfl, rfl⟩,
      (), _, commit_eq_ok.mpr ⟨hCalm2, rfl⟩, (confirm_eq_ok rfl).mpr ⟨hCalm3, rfl, rfl⟩⟩

/-- A load succeeds if there are tables, the numbers of the configuration fit, and nothing befalls
any of its statements. -/
theorem loadWork_eq_ok (db db' : Database) (c : Config) (replace : Bool) (i : Stored Interface) :
    (∃ s', exec (loadWork c replace <* commit) ⟨db, db.tables, []⟩ = (.ok i, s') ∧
      s'.database = db') ↔
      ∃ t, db.tables = some t ∧ Storable c ∧
        Calm db.outage db.count (fillSteps c replace + 3) ∧
        i = ⟨t.feedId c.interface db.nextId, c.interface⟩ ∧ db' = db.loaded t c replace := by
  have hSession : (loadWork c replace <* commit) =
      (loadWork c replace >>= fun stored => commit >>= fun _ => pure stored) := rfl
  rw [hSession, show fillSteps c replace + 3 = fillSteps c replace + 2 + 1 from rfl, calm_add,
    calm_one]
  simp only [exec_bind_eq_ok, exec_pure]
  constructor
  · rintro ⟨s', ⟨stored, s1, hWork, _, s2, hCommit, hEnd⟩, rfl⟩
    cases hEnd
    obtain ⟨t, ht, hStorable, hCalm, rfl, rfl⟩ := exec_loadWork_eq_ok.mp hWork
    obtain ⟨hLast, rfl⟩ := commit_eq_ok.mp hCommit
    exact ⟨t, ht, hStorable, ⟨hCalm, hLast⟩, rfl, rfl⟩
  · rintro ⟨t, ht, hStorable, ⟨hCalm, hLast⟩, rfl, rfl⟩
    exact ⟨_, ⟨_, _, exec_loadWork_eq_ok.mpr ⟨t, ht, hStorable, hCalm, rfl, rfl⟩,
      (), _, commit_eq_ok.mpr ⟨hLast, rfl⟩, rfl⟩, rfl⟩

end Database

/-! ### Loads that fail -/

namespace Work

variable {α β : Type}

/-- Work that leaves the tables of its database alone, and the outages; identities may be given
out. -/
def Drafts (x : Work α) : Prop :=
  ∀ s result s', exec x s = (result, s') → s'.database.tables = s.database.tables ∧
    s'.database.outage = s.database.outage ∧ s.database.nextId ≤ s'.database.nextId

theorem Drafts.bind {x : Work α} {f : α → Work β} (hFirst : Drafts x)
    (hRest : ∀ a, Drafts (f a)) : Drafts (x >>= f) := by
  intro s result s' h
  rcases bind_cases h with ⟨e, rfl, hError⟩ | ⟨a, between, hOk, h⟩
  · exact hFirst s _ s' hError
  · obtain ⟨hTables, hOutage, hNext⟩ := hFirst s _ between hOk
    obtain ⟨hTables', hOutage', hNext'⟩ := hRest a between result s' h
    exact ⟨hTables'.trans hTables, hOutage'.trans hOutage, Nat.le_trans hNext hNext'⟩

/-- Work that does not touch its database. -/
theorem drafts_of_database {x : Work α} (h : ∀ s, (exec x s).2.database = s.database) :
    Drafts x := by
  intro s result s' hExec
  have hSame := h s
  rw [hExec] at hSame
  rw [show s'.database = s.database from hSame]
  exact ⟨rfl, rfl, Nat.le_refl _⟩

theorem drafts_freshId : Drafts freshId := by
  rintro s result s' h
  cases h
  exact ⟨rfl, rfl, Nat.le_succ _⟩

theorem drafts_statement {table : String} {f : Tables → Except Fault (α × Tables)} :
    Drafts (statement table f) := by
  have hCount : Drafts count := by
    intro s result s' h
    rw [exec_count] at h
    split at h <;> cases h <;> exact ⟨rfl, rfl, Nat.le_refl _⟩
  refine hCount.bind fun _ => (drafts_of_database fun _ => rfl).bind fun s => ?_
  split
  · exact drafts_of_database fun _ => rfl
  · split
    · exact drafts_of_database fun _ => rfl
    · exact drafts_of_database fun _ => rfl

theorem drafts_fill (c : Config) (replace : Bool) : Drafts (fill c replace) := by
  have hOpen : Drafts (openFeed c.interface) := by
    refine drafts_statement.bind fun found => Drafts.bind ?_ fun id => ?_
    · cases found with
      | some feed => exact drafts_of_database fun _ => rfl
      | none => exact drafts_freshId
    · refine (drafts_of_database fun _ => rfl).bind fun _ => drafts_statement.bind fun _ => ?_
      exact drafts_of_database fun _ => rfl
  have hClear : ∀ id, Drafts (clearRules replace id) := by
    intro id
    cases replace with
    | false => exact drafts_of_database fun _ => rfl
    | true =>
      show Drafts (removeRules id)
      exact drafts_statement
  have hAdd : ∀ id, Drafts (addRules id c.interface.clientId c.rules) := by
    intro id
    induction c.rules with
    | nil => exact drafts_of_database fun _ => rfl
    | cons rule rest ih =>
      rw [addRules_cons]
      exact drafts_freshId.bind fun k => drafts_statement.bind fun _ => ih
  refine hOpen.bind fun id => (hClear id).bind fun _ => (hAdd id).bind fun _ => ?_
  exact drafts_of_database fun _ => rfl

theorem drafts_confirm (c : Config) (id : Nat) : Drafts (confirm c id) := by
  refine drafts_statement.bind fun _ => (drafts_of_database fun _ => rfl).bind fun _ => ?_
  exact drafts_of_database fun _ => rfl

theorem commit_eq_error {s s' : Session} {e : Breakdown} (h : exec commit s = (.error e, s')) :
    s' = ⟨s.database.advanced 1 0, s.draft, s.log⟩ := by
  unfold commit at h
  rw [exec_bind, exec_count] at h
  split at h
  · cases h
  · next hCount =>
    split at hCount <;> cases hCount
    cases h
    rfl

/-- A load leaves the tables as they are and fails, or it leaves them with its configuration; it may
still fail then. -/
theorem loadWork_cases {db : Database} {c : Config} {replace : Bool}
    {result : Except Breakdown (Stored Interface)} {s' : Session}
    (h : exec (Database.loadWork c replace <* commit) ⟨db, db.tables, []⟩ = (result, s')) :
    s'.database.outage = db.outage ∧
      ((s'.database.tables = db.tables ∧ db.nextId ≤ s'.database.nextId ∧ ∃ e, result = .error e) ∨
        ∃ t, db.tables = some t ∧ s'.database.tables = some (t.loaded c replace db.nextId) ∧
          db.nextId + t.feedIds c.interface + c.rules.length ≤ s'.database.nextId ∧
          ∀ i, result = .ok i → i = ⟨t.feedId c.interface db.nextId, c.interface⟩) := by
  rw [loadWork_parts] at h
  rcases bind_cases h with ⟨e, rfl, hFill⟩ | ⟨id, s1, hFill, h⟩
  · obtain ⟨hTables, hOutage, hNext⟩ := drafts_fill c replace _ _ _ hFill
    exact ⟨hOutage, .inl ⟨hTables, hNext, e, rfl⟩⟩
  obtain ⟨t, ht⟩ := exists_tables_of_fill hFill
  obtain ⟨-, -, rfl, rfl⟩ := (fill_eq_ok ht).mp hFill
  rcases bind_cases h with ⟨e, rfl, hCommit⟩ | ⟨_, s2, hCommit, h⟩
  · obtain rfl := commit_eq_error hCommit
    exact ⟨rfl, .inl ⟨rfl, Nat.le_add_right _ _, e, rfl⟩⟩
  obtain ⟨-, rfl⟩ := commit_eq_ok.mp hCommit
  have hNext : db.nextId + t.feedIds c.interface + c.rules.length ≤
      db.nextId + (t.feedIds c.interface + c.rules.length) := by omega
  -- The configuration is committed, and whatever follows leaves the tables with it.
  rcases bind_cases h with ⟨e, rfl, hConfirm⟩ | ⟨stored, s3, hConfirm, h⟩
  · obtain ⟨hTables, hOutage, hLater⟩ := drafts_confirm c _ _ _ _ hConfirm
    exact ⟨hOutage, .inr ⟨t, ht, hTables, Nat.le_trans hNext hLater, nofun⟩⟩
  obtain ⟨-, rfl, rfl⟩ := (confirm_eq_ok rfl).mp hConfirm
  rcases bind_cases h with ⟨e, rfl, hLast⟩ | ⟨_, s4, hLast, h⟩
  · obtain rfl := commit_eq_error hLast
    exact ⟨rfl, .inr ⟨t, ht, rfl, hNext, nofun⟩⟩
  · obtain ⟨-, rfl⟩ := commit_eq_ok.mp hLast
    cases h
    exact ⟨rfl, .inr ⟨t, ht, rfl, hNext, fun i hi => by cases hi; rfl⟩⟩

end Work

/-! ### Loads of a source -/

namespace Database

open Work

variable {db' : Database} {source : Config.Source}

/-- A source that is read is loaded in a session of its own. -/
theorem load_of_read (db : Database) (replace : Bool) {c : Config} (hRead : source.read = .ok c) :
    ∃ result s', exec (loadWork c replace <* commit) ⟨db, db.tables, []⟩ = (result, s') ∧
      (db.load source replace).value = (result.mapError LoadFailure.database, s'.database) := by
  rcases hWork : exec (loadWork c replace <* commit) ⟨db, db.tables, []⟩ with ⟨result, s'⟩
  have hRun : (db.run (loadWork c replace <* commit)).value = (result, s'.database) := by
    unfold Database.run
    unfold exec at hWork
    rw [hWork]
  refine ⟨result, s', rfl, ?_⟩
  unfold load
  rw [hRead]
  simp only [Logged.value_bind, hRun]
  match result with
  | .ok i => rfl
  | .error (.reported text) => rfl
  | .error (.fault fault) => rfl

/-- A source that is not read is not loaded, and the database is not asked for anything. -/
theorem load_of_failure (db : Database) (replace : Bool) {failure : Config.Failure}
    (hRead : source.read = .error failure) :
    db.load source replace = ⟨(.error (.config failure), db), []⟩ := by
  unfold load
  rw [hRead]
  rfl

variable {db : Database} {replace : Bool}

/-- A load succeeds if its source is read, there are tables, the numbers of the configuration fit,
and nothing befalls any of its statements. -/
theorem load_eq_ok {i : Stored Interface} :
    (db.load source replace).value = (.ok i, db') ↔
      ∃ c t, source.read = .ok c ∧ db.tables = some t ∧ Storable c ∧
        Calm db.outage db.count (fillSteps c replace + 3) ∧
        i = ⟨t.feedId c.interface db.nextId, c.interface⟩ ∧ db' = db.loaded t c replace := by
  cases hRead : source.read with
  | error failure =>
    rw [load_of_failure db replace hRead]
    simp
  | ok c =>
    obtain ⟨result, s', hWork, hValue⟩ := load_of_read db replace hRead
    have hIff := loadWork_eq_ok db db' c replace i
    rw [hWork] at hIff
    constructor
    · intro h
      rw [hValue] at h
      obtain ⟨hResult, hEnd⟩ := Prod.mk.inj h
      obtain ⟨t, ht⟩ := hIff.mp ⟨s', by rw [mapError_eq_ok.mp hResult], hEnd⟩
      exact ⟨c, t, rfl, ht⟩
    · rintro ⟨c', t, hSame, ht⟩
      cases hSame
      obtain ⟨s'', hExec, hEnd⟩ := hIff.mpr ⟨t, ht⟩
      cases hExec
      rw [hValue, hEnd]
      rfl

/-- A load leaves the tables as they are and fails, or it leaves them with its configuration; it may
still fail then. -/
theorem load_cases {result : Except LoadFailure (Stored Interface)}
    (h : (db.load source replace).value = (result, db')) :
    db'.outage = db.outage ∧
      ((db'.tables = db.tables ∧ db.nextId ≤ db'.nextId ∧ ∃ e, result = .error e) ∨
        ∃ c t, source.read = .ok c ∧ db.tables = some t ∧
          db'.tables = some (t.loaded c replace db.nextId) ∧
          db.nextId + t.feedIds c.interface + c.rules.length ≤ db'.nextId ∧
          ∀ i, result = .ok i → i = ⟨t.feedId c.interface db.nextId, c.interface⟩) := by
  cases hRead : source.read with
  | error failure =>
    rw [load_of_failure db replace hRead] at h
    cases h
    exact ⟨rfl, .inl ⟨rfl, Nat.le_refl _, _, rfl⟩⟩
  | ok c =>
    obtain ⟨result', s', hWork, hValue⟩ := load_of_read db replace hRead
    rw [hValue] at h
    cases h
    obtain ⟨hOutage, hCases⟩ := loadWork_cases hWork
    refine ⟨hOutage, ?_⟩
    rcases hCases with ⟨hTables, hNext, e, rfl⟩ | ⟨t, ht, hTables, hNext, hFeed⟩
    · exact .inl ⟨hTables, hNext, _, rfl⟩
    · exact .inr ⟨c, t, rfl, ht, hTables, hNext, fun i hi => hFeed i (mapError_eq_ok.mp hi)⟩

end Database

end Intake
