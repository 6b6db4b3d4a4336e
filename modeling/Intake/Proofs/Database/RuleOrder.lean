import Mathlib.Data.List.Pairwise
import Mathlib.Data.List.Perm.Basic
import Mathlib.Data.String.Basic
import Intake.Proofs.Attempt.Step
import Intake.Proofs.Database.Tenancy
import Intake.Proofs.Schema.Slots

/-! The order in which a configuration lists its rules. A database answers with the rules of a feed
by rank and name, so where ranks and names tell the rules of a table apart the answer does not
depend on the order in which they were stored, and neither does the plan that is made of it. -/

namespace Intake

namespace Tables

/-- Whether a rule comes before another one, or at the same place. -/
def Leads (a b : Rule) : Prop := b.rank < a.rank ∨ a.rank = b.rank ∧ a.name ≤ b.name

theorem isBefore_iff {a b : Stored FeedRule} :
    isBefore a b = true ↔ Leads a.value.rule b.value.rule := by
  simp [isBefore, Leads]

theorem isBefore_trans (a b c : Stored FeedRule) (hab : isBefore a b = true)
    (hbc : isBefore b c = true) : isBefore a c = true := by
  rw [isBefore_iff] at hab hbc ⊢
  rcases hab with hab | ⟨hRank, hName⟩
  · rcases hbc with hbc | ⟨hRank', -⟩
    · exact .inl (by omega)
    · exact .inl (by omega)
  · rcases hbc with hbc | ⟨hRank', hName'⟩
    · exact .inl (by omega)
    · exact .inr ⟨by omega, le_trans hName hName'⟩

theorem isBefore_total (a b : Stored FeedRule) : (isBefore a b || isBefore b a) = true := by
  rw [Bool.or_eq_true, isBefore_iff, isBefore_iff]
  rcases Int.lt_trichotomy a.value.rule.rank b.value.rule.rank with hLess | hSame | hMore
  · exact .inr (.inl hLess)
  · rcases le_total a.value.rule.name b.value.rule.name with hName | hName
    · exact .inl (.inr ⟨hSame, hName⟩)
    · exact .inr (.inr ⟨hSame.symm, hName⟩)
  · exact .inl (.inl hMore)

theorem Leads.antisymm {a b : Rule} (hab : Leads a b) (hba : Leads b a) :
    a.rank = b.rank ∧ a.name = b.name := by
  rcases hab with hab | ⟨hRank, hName⟩
  · rcases hba with hba | ⟨hRank', -⟩ <;> omega
  · rcases hba with hba | ⟨-, hName'⟩
    · omega
    · exact ⟨hRank, le_antisymm hName hName'⟩

/-- The rules that a feed is asked for, as they are configured. -/
def answerFor (t : Tables) (interfaceId : Option Nat) (table : String) : List Rule :=
  (t.rulesFor interfaceId table).map fun r => r.value.rule

/-- Stored rules in order, as they are configured: the same rules, each one leading the next. -/
theorem sorted_rules (rules : List (Stored FeedRule)) :
    ((rules.mergeSort isBefore).map fun r => r.value.rule).Perm (rules.map fun r => r.value.rule) ∧
      ((rules.mergeSort isBefore).map fun r => r.value.rule).Pairwise Leads := by
  refine ⟨(List.mergeSort_perm rules isBefore).map _, ?_⟩
  rw [List.pairwise_map]
  have hPairs := List.pairwise_mergeSort isBefore_trans isBefore_total rules
  exact hPairs.imp fun h => isBefore_iff.mp h

/-- Two rules of one table have different priorities or names. -/
def ToldApart (a b : Rule) : Prop :=
  a.tableName.map Char.toUpper = b.tableName.map Char.toUpper →
    (a.priority, a.name) ≠ (b.priority, b.name)

instance : Std.Symm ToldApart where
  symm _ _ h hTable hSame := h hTable.symm hSame.symm

section Loaded

variable (t : Tables) (c : Config) (next : Nat)

/-- A feed that a load does not reach is asked for the same rules as before. -/
theorem answerFor_loaded_other {interfaceId : Option Nat} (table : String)
    (hOther : interfaceId ≠ some (t.feedId c.interface next)) :
    (t.loaded c true next).answerFor interfaceId table = t.answerFor interfaceId table := by
  rw [answerFor, answerFor, rulesFor, rulesFor, filter_rules_loaded t c true next]
  intro r hAsked hFeed
  simp only [Bool.and_eq_true, beq_iff_eq] at hAsked
  exact hOther (hAsked.1.symm.trans hFeed)

/-- The feed that a load reaches is asked for the rules of the configuration. -/
theorem answerFor_loaded_own (table : String) :
    ((t.loaded c true next).answerFor (some (t.feedId c.interface next)) table).Perm
        (c.rules.filter (isAbout table)) ∧
      ((t.loaded c true next).answerFor (some (t.feedId c.interface next)) table).Pairwise
        Leads := by
  obtain ⟨hPerm, hLeads⟩ := sorted_rules ((t.loaded c true next).rules.filter fun r =>
    r.value.interfaceId == some (t.feedId c.interface next) && isAbout table r.value.rule)
  refine ⟨hPerm.trans (List.Perm.of_eq ?_), hLeads⟩
  have hGone : (t.removeRules (t.feedId c.interface next)).rules.filter
      (fun r => r.value.interfaceId == some (t.feedId c.interface next) &&
        isAbout table r.value.rule) = [] := by
    rw [removeRules, List.filter_filter, List.filter_eq_nil_iff]
    intro r _ hAsked
    simp only [Bool.and_eq_true, beq_iff_eq, bne_iff_ne] at hAsked
    exact hAsked.2 hAsked.1.1
  have hNew : (feedRules (t.feedId c.interface next) c.interface.clientId
        (next + t.feedIds c.interface) c.rules).filter
      (fun r => r.value.interfaceId == some (t.feedId c.interface next) &&
        isAbout table r.value.rule) =
      (feedRules (t.feedId c.interface next) c.interface.clientId
        (next + t.feedIds c.interface) c.rules).filter
      ((isAbout table) ∘ fun r => r.value.rule) := by
    refine List.filter_congr fun r hr => ?_
    simp [(mem_feedRules hr).1]
  rw [loaded_rules, List.filter_append, if_pos rfl, hGone, List.nil_append, hNew,
    ← List.filter_map, feedRules_map_rule]

end Loaded

/-- Rules that are told apart have one order. -/
theorem answer_unique {rules rules' answer answer' : List Rule} {table : String}
    (hRules : rules'.Perm rules) (hApart : rules.Pairwise ToldApart)
    (hPriority : ∀ rule ∈ rules, rule.priority.isSome)
    (hPerm : answer.Perm (rules.filter (isAbout table)))
    (hPerm' : answer'.Perm (rules'.filter (isAbout table)))
    (hLeads : answer.Pairwise Leads) (hLeads' : answer'.Pairwise Leads) : answer' = answer := by
  have hSame : answer'.Perm answer := hPerm'.trans ((hRules.filter _).trans hPerm.symm)
  refine List.Perm.eq_of_pairwise ?_ hLeads' hLeads hSame
  intro a b ha hb hab hba
  obtain ⟨ha, hTableA⟩ := List.mem_filter.mp (hPerm.mem_iff.mp (hSame.mem_iff.mp ha))
  obtain ⟨hb, hTableB⟩ := List.mem_filter.mp (hPerm.mem_iff.mp hb)
  obtain ⟨hRank, hName⟩ := hab.antisymm hba
  obtain ⟨m, hm⟩ := Option.isSome_iff_exists.mp (hPriority a ha)
  obtain ⟨n, hn⟩ := Option.isSome_iff_exists.mp (hPriority b hb)
  have hPrioritySame : a.priority = b.priority := by
    rw [Rule.rank, Rule.rank, hm, hn] at hRank
    rw [hm, hn]
    exact congrArg some hRank
  have hTable : a.tableName.map Char.toUpper = b.tableName.map Char.toUpper :=
    (beq_iff_eq.mp hTableA).trans (beq_iff_eq.mp hTableB).symm
  by_contra hDifferent
  have hTold := hApart.forall ha hb hDifferent
  exact hTold hTable (by rw [hPrioritySame, hName])

end Tables

namespace Database

/-- What the database answers when it is asked for the rules of a feed. -/
def rulesAnswer (db : Database) (interfaceId : Option Nat) (table : String) :
    Except String (Option (List Rule)) :=
  match db.outage db.count, db.tables with
  | some text, _ => .error (callProblem .rules text).message
  | none, none => .error (callProblem .rules (Breakdown.noTable "mapping_rules").message).message
  | none, some t => .ok (some (t.answerFor interfaceId table))

/-- The plan that the database's answers make for an attempt. -/
def planFor (db : Database) (t : Task) : Except Abort Plan := do
  let headerRules ← (db.rulesAnswer t.interfaceId t.kind.headerType.table).mapError
    (Abort.store .rules)
  let lineRules ← ((db.advanced 1 0).rulesAnswer t.interfaceId t.kind.lineType.table).mapError
    (Abort.store .rules)
  (Plan.ofAnswers headerRules lineRules).value.mapError Abort.fault

theorem repository_rules (db : Database) (interfaceId : Option Nat) (table : String) :
    (repository.rules interfaceId table db).value =
      (db.rulesAnswer interfaceId table, db.advanced 1 0) := by
  have hExec : Work.exec (do return some (← rulesWork interfaceId table)) ⟨db, db.tables, []⟩ =
      match db.outage db.count, db.tables with
      | some text, _ => (.error (.reported text), ⟨db.advanced 1 0, db.tables, []⟩)
      | none, none => (.error (.noTable "mapping_rules"), ⟨db.advanced 1 0, db.tables, []⟩)
      | none, some t =>
        (.ok (some (t.answerFor interfaceId table)), ⟨db.advanced 1 0, some t, []⟩) := by
    simp only [rulesWork, Work.rulesFor, Work.query, Work.exec_bind, Work.exec_statement]
    cases db.outage db.count with
    | some text => rfl
    | none => cases db.tables <;> rfl
  unfold Work.exec at hExec
  simp only [repository, serve, Logged.value_bind, Database.run]
  rw [hExec, rulesAnswer]
  cases db.outage db.count with
  | some text => rfl
  | none => cases db.tables <;> rfl

end Database

namespace Attempt

theorem exec_call {σ α : Type} (name : Call) (f : σ → Logged (Except String α × σ))
    (a : Attempt σ) :
    exec (call name f) a =
      ((f a.store).value.1.mapError (Abort.store name),
        { a with store := (f a.store).value.2, log := a.log ++ (f a.store).log }) := by
  simp only [call, exec_bind, exec_get, exec_logged]
  rcases (f a.store).value with ⟨_ | _, _⟩ <;> rfl

/-- An attempt whose store is a database follows the plan of the database's answers. -/
theorem resolve_database (t : Task) (a : Attempt Database) :
    (exec (resolve Database.repository t) a).1 = a.store.planFor t := by
  simp only [Database.planFor, resolve, exec_bind, exec_call, Database.repository_rules, exec_logged]
  cases a.store.rulesAnswer t.interfaceId t.kind.headerType.table with
  | error reason => rfl
  | ok headerRules =>
    simp only [mapError_ok]
    cases hLines : (a.store.advanced 1 0).rulesAnswer t.interfaceId t.kind.lineType.table with
    | error reason => rfl
    | ok lineRules =>
      simp only [mapError_ok]
      cases hPlan : (Plan.ofAnswers headerRules lineRules).value with
      | error fault =>
        show Except.error (Abort.fault fault) =
          (Plan.ofAnswers headerRules lineRules).value.mapError Abort.fault
        rw [hPlan, mapError_error]
      | ok plan =>
        show Except.ok plan = (Plan.ofAnswers headerRules lineRules).value.mapError Abort.fault
        rw [hPlan, mapError_ok]

end Attempt

namespace Database

open Attempt (exec resolve)

section Reordered

variable {c c' : Config} (hInterface : c'.interface = c.interface)
  (hRules : c'.rules.Perm c.rules)

include hInterface hRules

theorem storable_of_perm (h : Work.Storable c) : Work.Storable c' := by
  obtain ⟨hOwner, hFits⟩ := h
  refine ⟨by rwa [hInterface], fun rule hRule => ?_⟩
  rw [hInterface]
  exact hFits rule (hRules.mem_iff.mp hRule)

/-- A load of the same rules in another order succeeds as well, and leaves the same database but for
the tables. -/
theorem load_of_perm {db db' : Database} {source source' : Config.Source} {i : Stored Interface}
    (hRead : source.read = .ok c) (hRead' : source'.read = .ok c')
    (h : (db.load source true).value = (.ok i, db')) :
    ∃ t, db' = db.loaded t c true ∧
      (db.load source' true).value =
        (.ok i, { db' with tables := some (t.loaded c' true db.nextId) }) := by
  obtain ⟨_, t, hSame, ht, hStorable, hCalm, rfl, rfl⟩ := load_eq_ok.mp h
  obtain rfl := Except.ok.inj (hRead.symm.trans hSame)
  have hSteps : Work.fillSteps c' true = Work.fillSteps c true := by
    rw [Work.fillSteps, Work.fillSteps, hRules.length_eq]
  refine ⟨t, rfl, load_eq_ok.mpr ⟨c', t, hRead', ht, ?_, ?_, ?_, ?_⟩⟩
  · exact storable_of_perm hInterface hRules hStorable
  · rwa [hSteps]
  · rw [hInterface]
  · simp only [loaded, hSteps, hInterface, hRules.length_eq]

theorem answerFor_of_perm (t : Tables) (next : Nat) (hApart : c.rules.Pairwise Tables.ToldApart)
    (hPriority : ∀ rule ∈ c.rules, rule.priority.isSome) (interfaceId : Option Nat)
    (table : String) :
    (t.loaded c' true next).answerFor interfaceId table =
      (t.loaded c true next).answerFor interfaceId table := by
  by_cases hOwn : interfaceId = some (t.feedId c.interface next)
  · obtain ⟨hPerm, hLeads⟩ := t.answerFor_loaded_own c next table
    obtain ⟨hPerm', hLeads'⟩ := t.answerFor_loaded_own c' next table
    rw [hInterface] at hPerm' hLeads'
    rw [hOwn]
    exact Tables.answer_unique hRules hApart hPriority hPerm hPerm' hLeads hLeads'
  · rw [t.answerFor_loaded_other c next table hOwn,
      t.answerFor_loaded_other c' next table (by rwa [hInterface])]

end Reordered

/-- Tables that answer alike make databases that answer alike. -/
theorem rulesAnswer_of_answerFor (db : Database) {t t' : Tables} (ht : db.tables = some t)
    (hAnswer : ∀ interfaceId table, t'.answerFor interfaceId table = t.answerFor interfaceId table)
    (interfaceId : Option Nat) (table : String) :
    { db with tables := some t' }.rulesAnswer interfaceId table =
      db.rulesAnswer interfaceId table := by
  simp only [rulesAnswer, ht]
  cases db.outage db.count with
  | some text => rfl
  | none => simp only [hAnswer]

theorem planFor_of_answerFor (db : Database) {t t' : Tables} (ht : db.tables = some t)
    (hAnswer : ∀ interfaceId table, t'.answerFor interfaceId table = t.answerFor interfaceId table)
    (task : Task) : { db with tables := some t' }.planFor task = db.planFor task := by
  have hSecond := rulesAnswer_of_answerFor (db.advanced 1 0) ht hAnswer task.interfaceId
  simp only [planFor, rulesAnswer_of_answerFor db ht hAnswer]
  simp only [advanced] at hSecond ⊢
  simp only [hSecond]

/-- There is a plan if nothing befalls the two statements that it takes. -/
theorem exists_planFor {db : Database} {t : Tables} (ht : db.tables = some t)
    (hCalm : Calm db.outage db.count 2) (task : Task) : ∃ plan, db.planFor task = .ok plan := by
  obtain ⟨hFirst, hSecond⟩ := (calm_add (m := 1) (n := 1)).mp hCalm
  rw [calm_one] at hFirst hSecond
  have hHeader : ∀ table, db.rulesAnswer task.interfaceId table =
      .ok (some (t.answerFor task.interfaceId table)) := by
    intro table
    rw [rulesAnswer, hFirst, ht]
  have hLine : ∀ table, (db.advanced 1 0).rulesAnswer task.interfaceId table =
      .ok (some (t.answerFor task.interfaceId table)) := by
    intro table
    simp only [rulesAnswer, advanced_outage, advanced_count, advanced_tables, hSecond, ht]
  rw [planFor, hHeader, hLine]
  exact ⟨_, rfl⟩

/-- A configuration that is read is loaded if there are tables that have room for its numbers and
nothing befalls the statements. -/
theorem exists_load {db : Database} {source : Config.Source} {c : Config} {t : Tables}
    (hRead : source.read = .ok c) (ht : db.tables = some t) (hStorable : Work.Storable c)
    (hCalm : Calm db.outage db.count (Work.fillSteps c true + 3)) :
    ∃ i after, (db.load source true).value = (.ok i, after) :=
  ⟨_, _, load_eq_ok.mpr ⟨c, t, hRead, ht, hStorable, hCalm, rfl, rfl⟩⟩

/-- Configurations of the same feed that list the same rules in different orders are loaded with the
same success, and documents are then mapped by the same plan. -/
theorem load_perm {db : Database} {source source' : Config.Source} {c c' : Config}
    (hRead : source.read = .ok c) (hRead' : source'.read = .ok c')
    (hInterface : c'.interface = c.interface) (hRules : c'.rules.Perm c.rules)
    (hApart : c.rules.Pairwise Tables.ToldApart) :
    (∀ i, (db.load source' true).value.1 = .ok i ↔ (db.load source true).value.1 = .ok i) ∧
      (∀ t, db.tables = some t → Work.Storable c →
        Calm db.outage db.count (Work.fillSteps c true + 3) →
        ∃ i after, (db.load source true).value = (.ok i, after)) ∧
      ∀ i after after', (db.load source true).value = (.ok i, after) →
        (db.load source' true).value = (.ok i, after') →
        ∀ (t : Task) (a : Attempt Database),
          (exec (resolve repository t) { a with store := after' }).1 =
              (exec (resolve repository t) { a with store := after }).1 ∧
            (Calm after.outage after.count 2 →
              ∃ plan, (exec (resolve repository t) { a with store := after }).1 = .ok plan) := by
  refine ⟨?_, fun _ ht hStorable hCalm => exists_load hRead ht hStorable hCalm, ?_⟩
  · intro i
    constructor
    · intro h
      obtain ⟨_, -, hLoad⟩ := load_of_perm hInterface.symm hRules.symm hRead' hRead (Prod.ext h rfl)
      rw [hLoad]
    · intro h
      obtain ⟨_, -, hLoad⟩ := load_of_perm hInterface hRules hRead hRead' (Prod.ext h rfl)
      rw [hLoad]
  · intro i after after' hLoad hLoad' t a
    obtain ⟨tables, rfl, hSame⟩ := load_of_perm hInterface hRules hRead hRead' hLoad
    obtain rfl := (Prod.mk.inj (hLoad'.symm.trans hSame)).2
    have hAnswer : ∀ interfaceId table,
        (tables.loaded c' true db.nextId).answerFor interfaceId table =
          (tables.loaded c true db.nextId).answerFor interfaceId table :=
      answerFor_of_perm hInterface hRules tables db.nextId hApart (Config.priority_of_read hRead)
    rw [Attempt.resolve_database, Attempt.resolve_database]
    exact ⟨planFor_of_answerFor (db.loaded tables c true) rfl hAnswer t,
      fun hCalm => exists_planFor rfl hCalm t⟩

/-- A rule for a field of the header, as it stands in a configuration. -/
def headerRule (name field path : String) : Json :=
  .object [("name", .text name), ("target_field", .text field),
    ("table_name", .text "ORDER_HEADERS"), ("source_path", .text path)]

/-- A configuration of the given rules for the feed of one owner. -/
def orderSource (rules : List Json) : Config.Source :=
  .value (.object
    [("interface", .object [("name", .text "orders"), ("interface_type", .text "ORDER"),
      ("client_id", .whole 7)]), ("rules", .list rules)])

theorem load_perm_twoRules :
    let number := headerRule "number" "order_number" "/Order/Id"
    let status := headerRule "status" "status" "/Order/Status"
    let after := (ofOneOwner.load (orderSource [number, status]) true).value.2
    let after' := (ofOneOwner.load (orderSource [status, number]) true).value.2
    ∀ (t : Task) (a : Attempt Database),
      (exec (resolve repository t) { a with store := after' }).1 =
          (exec (resolve repository t) { a with store := after }).1 ∧
        ∃ plan, (exec (resolve repository t) { a with store := after }).1 = .ok plan := by
  intro number status after after' t a
  let feed : Interface := { name := "orders", kindTag := "ORDER", clientId := some 7 }
  let first : Rule :=
    { name := "number", targetField := "order_number", tableName := "ORDER_HEADERS"
      sourcePath := some "/Order/Id" }
  let second : Rule :=
    { name := "status", targetField := "status", tableName := "ORDER_HEADERS"
      sourcePath := some "/Order/Status" }
  have hRead : (orderSource [number, status]).read = .ok ⟨feed, [first, second]⟩ := rfl
  have hRead' : (orderSource [status, number]).read = .ok ⟨feed, [second, first]⟩ := rfl
  have hApart : [first, second].Pairwise Tables.ToldApart := by
    refine List.pairwise_pair.mpr fun _ => ?_
    decide
  have hFirst : (ofOneOwner.load (orderSource [number, status]) true).value.1 = .ok ⟨1, feed⟩ := by
    decide +kernel
  have hSecond : (ofOneOwner.load (orderSource [status, number]) true).value.1 = .ok ⟨1, feed⟩ := by
    decide +kernel
  have hLoad : (ofOneOwner.load (orderSource [number, status]) true).value =
      (.ok ⟨1, feed⟩, after) := by rw [← hFirst]
  have hLoad' : (ofOneOwner.load (orderSource [status, number]) true).value =
      (.ok ⟨1, feed⟩, after') := by rw [← hSecond]
  obtain ⟨-, -, hSame⟩ := load_perm hRead hRead' rfl (List.Perm.swap second first []).symm hApart
  obtain ⟨hPlan, hCalm⟩ := hSame _ after after' hLoad hLoad' t a
  have hOutage : after.outage = ofOneOwner.outage := (load_cases hLoad).1
  refine ⟨hPlan, hCalm fun k _ => ?_⟩
  rw [hOutage]
  rfl

end Database

end Intake
