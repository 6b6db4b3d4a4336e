import Intake.Proofs.Database.Tenancy

/-! What a database holds once a configuration is loaded, and loaded again. The feed is stored as it
is configured; its rules are those of the configuration, after the earlier ones unless these are
replaced. A second load finds the feed that the first one stored. -/

namespace Intake

/-- The rules of a configuration as rules of the feed `i`. -/
def Config.rulesAs (c : Config) (i : Stored Interface) : List FeedRule :=
  c.rules.map fun rule => ⟨some i.id, i.value.clientId, rule⟩

namespace Tables

/-- `after` is `before` with the configuration `c` loaded as the feed `i`. -/
structure LoadEffect (c : Config) (replace : Bool) (i : Stored Interface) (before after : Tables) :
    Prop where
  value : i.value = c.interface
  row : ∀ f, f ∈ after.interfaces ∧ f.id = i.id ↔ f = i
  rules : ∃ added, added.map Stored.value = c.rulesAs i ∧
    after.rulesOf i.id = (if replace then [] else before.rulesOf i.id) ++ added
  others : after.rules.filter (fun r => r.value.interfaceId != some i.id) =
    before.rules.filter fun r => r.value.interfaceId != some i.id

section Loaded

variable (t : Tables) (c : Config) (replace : Bool) (next : Nat)

theorem feedRules_map_value (id : Nat) (i : Interface) (rules : List Rule) :
    (feedRules id i.clientId next rules).map Stored.value = (Config.mk i rules).rulesAs ⟨id, i⟩ := by
  induction rules generalizing next with
  | nil => rfl
  | cons rule rest ih =>
    rw [feedRules_cons, List.map_cons, ih]
    rfl

theorem rulesOf_removeRules (id : Nat) : (t.removeRules id).rulesOf id = [] := by
  rw [rulesOf, removeRules, List.filter_filter, List.filter_eq_nil_iff]
  intro r _ hBoth
  simp at hBoth

theorem loadEffect_loaded :
    LoadEffect c replace ⟨t.feedId c.interface next, c.interface⟩ t (t.loaded c replace next) where
  value := rfl
  row f := by
    rw [loaded_interfaces]
    constructor
    · rintro ⟨hMem, hId⟩
      exact eq_of_mem_put hMem (beq_iff_eq.mpr hId)
    · rintro rfl
      exact ⟨mem_put_self (by simp), rfl⟩
  rules := by
    refine ⟨_, feedRules_map_value (next + t.feedIds c.interface) _ c.interface c.rules, ?_⟩
    have hAll : ∀ r ∈ feedRules (t.feedId c.interface next) c.interface.clientId
        (next + t.feedIds c.interface) c.rules,
        (r.value.interfaceId == some (t.feedId c.interface next)) = true := by
      intro r hr
      exact beq_iff_eq.mpr (mem_feedRules hr).1
    rw [rulesOf, loaded_rules, List.filter_append, List.filter_eq_self.mpr hAll]
    cases replace with
    | false => rfl
    | true => exact congrArg (· ++ _) (rulesOf_removeRules t _)
  others := filter_rules_loaded t c replace next fun r hOther => by simpa using hOther

/-- The feed that has been loaded is the one that the configuration is for from then on. -/
theorem feed?_loaded :
    (t.loaded c replace next).feed? c.interface =
      some ⟨t.feedId c.interface next, c.interface⟩ := by
  unfold feed? interface?
  rw [loaded_interfaces]
  refine find?_put_of_first ?_ fun f hFirst => ?_
  · cases c.interface.clientId <;> simp
  · have hFound : t.feed? c.interface = some f := hFirst
    have hId : t.feedId c.interface next = f.id := by rw [feedId, hFound]; rfl
    rw [hId]
    exact beq_self_eq_true f.id

theorem feedId_loaded (next' : Nat) :
    (t.loaded c replace next).feedId c.interface next' = t.feedId c.interface next := by
  rw [feedId, feed?_loaded]
  rfl

end Loaded

/-- The rules in all, as those of a feed and those of the others. -/
theorem rules_perm_of_parts {t t' : Tables} {id : Nat}
    (hFeed : (t'.rulesOf id).map Stored.value = (t.rulesOf id).map Stored.value)
    (hOthers : t'.rules.filter (fun r => r.value.interfaceId != some id) =
      t.rules.filter fun r => r.value.interfaceId != some id) :
    (t'.rules.map Stored.value).Perm (t.rules.map Stored.value) := by
  have hSplit : ∀ s : Tables, ((s.rulesOf id).map Stored.value ++
      (s.rules.filter fun r => r.value.interfaceId != some id).map Stored.value).Perm
        (s.rules.map Stored.value) := by
    intro s
    rw [← List.map_append]
    exact (List.filter_append_perm (fun r => r.value.interfaceId == some id) s.rules).map _
  calc (t'.rules.map Stored.value).Perm _ := (hSplit t').symm
    _ = _ := by rw [hFeed, hOthers]
    _ |>.Perm _ := hSplit t

/-- What a configuration replaces the rules of its feed by does not depend on what they were. -/
theorem LoadEffect.again {c : Config} {i : Stored Interface} {before between after : Tables}
    (hFirst : LoadEffect c true i before between) (hSecond : LoadEffect c true i between after) :
    (after.rules.map Stored.value).Perm (between.rules.map Stored.value) := by
  obtain ⟨added, hAdded, hRules⟩ := hFirst.rules
  obtain ⟨added', hAdded', hRules'⟩ := hSecond.rules
  refine rules_perm_of_parts ?_ hSecond.others
  rw [hRules, hRules']
  exact hAdded'.trans hAdded.symm

end Tables

namespace Database

open Work

/-- Loading a configuration gives the feed `i`, and leaves the database with `after`. -/
def Loads (db : Database) (c : Config) (replace : Bool) (i : Stored Interface) (after : Tables) :
    Prop :=
  ∃ s, exec (loadWork c replace) ⟨db, db.tables, []⟩ = (.ok i, s) ∧ s.database.contents = after

section Loads

variable {db : Database} {c : Config} {replace : Bool} {i : Stored Interface} {after : Tables}

theorem loads_iff :
    db.Loads c replace i after ↔
      ∃ t, db.tables = some t ∧ Storable c ∧
        Calm db.outage db.count (fillSteps c replace + 2) ∧
        i = ⟨t.feedId c.interface db.nextId, c.interface⟩ ∧
        after = t.loaded c replace db.nextId := by
  constructor
  · rintro ⟨s, hWork, rfl⟩
    obtain ⟨t, ht, hStorable, hCalm, hFeed, rfl⟩ := exec_loadWork_eq_ok.mp hWork
    exact ⟨t, ht, hStorable, hCalm, hFeed, rfl⟩
  · rintro ⟨t, ht, hStorable, hCalm, rfl, rfl⟩
    exact ⟨_, exec_loadWork_eq_ok.mpr ⟨t, ht, hStorable, hCalm, rfl, rfl⟩, rfl⟩

/-- What a load has committed stays, whether or not its session comes to its own commit. -/
theorem Loads.tables_load {source : Config.Source} (h : db.Loads c replace i after)
    (hRead : source.read = .ok c) : (db.load source replace).value.2.tables = some after := by
  obtain ⟨s, hWork, rfl⟩ := h
  obtain ⟨t, -, -, -, -, rfl⟩ := exec_loadWork_eq_ok.mp hWork
  obtain ⟨result, s', hSession, hValue⟩ := load_of_read db replace hRead
  rw [hValue]
  rcases bind_cases hSession with ⟨e, -, hError⟩ | ⟨stored, between, hOk, hClose⟩
  · rw [hWork] at hError
    cases hError
  obtain ⟨-, rfl⟩ := Prod.mk.inj (hWork.symm.trans hOk)
  rcases bind_cases hClose with ⟨e, -, hCommit⟩ | ⟨_, closed, hCommit, hEnd⟩
  · obtain rfl := commit_eq_error hCommit
    rfl
  · obtain ⟨-, rfl⟩ := commit_eq_ok.mp hCommit
    cases hEnd
    rfl

end Loads

/-- A load stores the feed as it is configured and adds its rules, to the earlier ones or in their
place, and leaves the rules of all other feeds alone. A second load that replaces the rules gives
the same feed, and the same rules in all if the first one replaced them too. -/
theorem load_effect {db : Database} {source : Config.Source} {c : Config} {replace : Bool}
    {i : Stored Interface} {after : Tables} (hRead : source.read = .ok c)
    (hLoad : db.Loads c replace i after) :
    Tables.LoadEffect c replace i db.contents after ∧
      (db.load source replace).value.2.tables = some after ∧
      ∀ later : Database, later.tables = some after →
        (Calm later.outage later.count (fillSteps c true + 3) →
          (later.load source true).value.1 = .ok i ∧ ∃ again, later.Loads c true i again) ∧
        ∀ j again, later.Loads c true j again →
          j = i ∧ Tables.LoadEffect c true i after again ∧
            (replace = true → (again.rules.map Stored.value).Perm (after.rules.map Stored.value)) := by
  have hTables := hLoad.tables_load hRead
  obtain ⟨t, ht, hStorable, -, rfl, rfl⟩ := loads_iff.mp hLoad
  have hBefore : db.contents = t := by
    rw [contents, ht]
    rfl
  have hFirst := Tables.loadEffect_loaded t c replace db.nextId
  rw [hBefore]
  refine ⟨hFirst, hTables, fun later hLater => ⟨fun hCalm => ⟨?_, ?_⟩, ?_⟩⟩
  · have hAgain := load_eq_ok.mpr ⟨c, _, hRead, hLater, hStorable, hCalm, rfl, rfl⟩
    rw [hAgain, Tables.feedId_loaded]
  · -- The steps of the session's own commit are not part of the load.
    rw [calm_add, show 3 = 2 + 1 from rfl, calm_add] at hCalm
    obtain ⟨hFill, hCommit, -⟩ := hCalm
    refine ⟨_, loads_iff.mpr ⟨_, hLater, hStorable, calm_add.mpr ⟨hFill, hCommit⟩, ?_, rfl⟩⟩
    rw [Tables.feedId_loaded]
  · intro j again hReload
    obtain ⟨t', ht', -, -, rfl, rfl⟩ := loads_iff.mp hReload
    obtain rfl := Option.some.inj (hLater.symm.trans ht')
    have hSecond := Tables.loadEffect_loaded (t.loaded c replace db.nextId) c true later.nextId
    rw [Tables.feedId_loaded] at hSecond ⊢
    refine ⟨rfl, hSecond, ?_⟩
    rintro rfl
    exact hFirst.again hSecond

/-- The feed of one owner with its rule, loaded in place of what there was of it. -/
theorem load_effect_ofOneOwner :
    let source : Config.Source := .value (.object
      [("interface", .object [("name", .text "orders"), ("interface_type", .text "ORDER"),
        ("client_id", .whole 7)]),
        ("rules", .list [.object [("name", .text "total"), ("target_field", .text "total_amount"),
          ("table_name", .text "ORDER_HEADERS"), ("source_path", .text "/Order/Total")]])])
    ∃ c i after, source.read = .ok c ∧ ofOneOwner.Loads c true i after ∧ i.id = 1 ∧
      (after.rulesOf 1).map Stored.value = c.rulesAs i ∧ (c.rulesAs i).length = 1 ∧
      ∃ again, Database.Loads { tables := some after, nextId := 4 } c true i again ∧
        (again.rules.map Stored.value).Perm (after.rules.map Stored.value) := by
  intro source
  let rule : Rule := { name := "total", targetField := "total_amount", tableName := "ORDER_HEADERS"
                       sourcePath := some "/Order/Total" }
  let c : Config := ⟨{ name := "orders", kindTag := "ORDER", clientId := some 7 }, [rule]⟩
  let i : Stored Interface := ⟨1, c.interface⟩
  have hRead : source.read = .ok c := rfl
  have hStorable : Storable c := by
    refine ⟨rfl, fun r hr => ?_⟩
    rw [List.mem_singleton.mp hr]
    exact ⟨rfl, rfl⟩
  have hLoad : ofOneOwner.Loads c true i (ofOneOwner.contents.loaded c true 3) :=
    loads_iff.mpr ⟨ofOneOwner.contents, rfl, hStorable, fun _ _ => rfl, rfl, rfl⟩
  obtain ⟨hEffect, -, hAgain⟩ := load_effect hRead hLoad
  obtain ⟨hReturns, hSame⟩ := hAgain { tables := some _, nextId := 4 } rfl
  obtain ⟨-, again, hReload⟩ := hReturns fun _ _ => rfl
  obtain ⟨added, hAdded, hRules⟩ := hEffect.rules
  refine ⟨c, i, _, hRead, hLoad, rfl, ?_, rfl, again, hReload, (hSame i again hReload).2.2 rfl⟩
  rw [show 1 = i.id from rfl, hRules]
  exact hAdded

end Database

end Intake
