import Mathlib.Data.List.Nodup
import Intake.Proofs.Database.Calls
import Intake.Proofs.Database.Loading

/-! Which feeds a load reaches. It reaches one: the first stored feed with the name and the owner of
its configuration, or a new one if there is none. A configuration without an owner goes by the name
alone, so the feed that it reaches may have been another owner's; it loses its owner then. Every
other feed stays as it is, with its rules. -/

namespace Intake

namespace Tables

/-- The rules of a feed as they are stored. -/
def rulesOf (t : Tables) (id : Nat) : List (Stored FeedRule) :=
  t.rules.filter fun r => r.value.interfaceId == some id

theorem feed?_of_unowned {i : Interface} (t : Tables) (h : i.clientId = none) :
    t.feed? i = t.interfaces.find? (·.value.name == i.name) := by
  simp [feed?, interface?, h]

theorem feed?_eq_some {t : Tables} {i : Interface} {f : Stored Interface}
    (h : t.feed? i = some f) :
    f ∈ t.interfaces ∧ f.value.name = i.name ∧
      (f.value.clientId = i.clientId ∨
        i.clientId = none ∧ t.interfaces.find? (·.value.name == i.name) = some f) := by
  refine ⟨List.mem_of_find?_eq_some h, ?_⟩
  have hFound := List.find?_some h
  simp only [Bool.and_eq_true, beq_iff_eq] at hFound
  obtain ⟨hName, hOwner⟩ := hFound
  refine ⟨hName, ?_⟩
  cases hClient : i.clientId with
  | none => exact .inr ⟨rfl, by rw [← feed?_of_unowned t hClient, h]⟩
  | some n =>
    rw [hClient] at hOwner
    exact .inl (by simpa using hOwner)

theorem feedId_cases (t : Tables) (i : Interface) (next : Nat) :
    (∃ f, t.feed? i = some f ∧ t.feedId i next = f.id ∧ t.feedIds i = 0) ∨
      t.feed? i = none ∧ t.feedId i next = next ∧ t.feedIds i = 1 := by
  unfold feedId feedIds
  cases t.feed? i with
  | some f => exact .inl ⟨f, rfl, rfl, rfl⟩
  | none => exact .inr ⟨rfl, rfl, rfl⟩

section Loaded

variable (t : Tables) (c : Config) (replace : Bool) (next : Nat)

theorem loaded_interfaces :
    (t.loaded c replace next).interfaces =
      put (·.id == t.feedId c.interface next) ⟨t.feedId c.interface next, c.interface⟩
        t.interfaces := by
  cases replace <;> rfl

theorem loaded_rules :
    (t.loaded c replace next).rules =
      (if replace then (t.removeRules (t.feedId c.interface next)).rules else t.rules) ++
        feedRules (t.feedId c.interface next) c.interface.clientId
          (next + t.feedIds c.interface) c.rules := by
  cases replace <;> rfl

theorem loaded_rest :
    (t.loaded c replace next).outcomes = t.outcomes ∧
      (t.loaded c replace next).headers = t.headers ∧ (t.loaded c replace next).lines = t.lines := by
  cases replace <;> exact ⟨rfl, rfl, rfl⟩

/-- The rules that are not of the feed stay. -/
theorem filter_rules_loaded {p : Stored FeedRule → Bool}
    (hOther : ∀ r, p r = true → r.value.interfaceId ≠ some (t.feedId c.interface next)) :
    (t.loaded c replace next).rules.filter p = t.rules.filter p := by
  have hNone : (feedRules (t.feedId c.interface next) c.interface.clientId
      (next + t.feedIds c.interface) c.rules).filter p = [] := by
    rw [List.filter_eq_nil_iff]
    intro r hr hAsked
    exact hOther r hAsked (mem_feedRules hr).1
  rw [loaded_rules, List.filter_append, hNone, List.append_nil]
  cases replace with
  | false => rfl
  | true =>
    simp only [if_true, removeRules, List.filter_filter]
    refine List.filter_congr fun r _ => ?_
    cases hAsked : p r with
    | false => rfl
    | true => simpa using hOther r hAsked

theorem rulesOf_loaded {id : Nat} (hOther : id ≠ t.feedId c.interface next) :
    (t.loaded c replace next).rulesOf id = t.rulesOf id := by
  refine filter_rules_loaded t c replace next fun r hAsked hSame => ?_
  rw [beq_iff_eq.mp hAsked] at hSame
  exact hOther (Option.some.inj hSame)

/-- The identities of the feeds: a feed that is new stands behind the others. -/
theorem loaded_ids :
    (t.loaded c replace next).interfaces.map Stored.id =
      if t.interfaces.any (·.id == t.feedId c.interface next) then t.interfaces.map Stored.id
      else t.interfaces.map Stored.id ++ [t.feedId c.interface next] := by
  rw [loaded_interfaces, put]
  split
  · rw [List.map_map]
    refine List.map_congr_left fun f _ => ?_
    by_cases hSame : f.id = t.feedId c.interface next <;> simp [hSame]
  · simp

end Loaded

/-- The feeds have identities of their own, all of them below `next`. -/
structure Keyed (t : Tables) (next : Nat) : Prop where
  distinct : (t.interfaces.map Stored.id).Nodup
  issued : ∀ f ∈ t.interfaces, f.id < next

/-- `after` is as `before` but for the feed `id` and its rules. That feed is the one that `i` is
for: it has the name and the owner of `i`, or is the first one of that name if `i` has no owner. -/
structure ReachesOnly (id : Nat) (i : Interface) (before after : Tables) : Prop where
  target : ∀ f ∈ before.interfaces, f.id = id →
    f.value.name = i.name ∧
      (f.value.clientId = i.clientId ∨
        i.clientId = none ∧ before.interfaces.find? (·.value.name == i.name) = some f)
  others : ∀ f ∈ before.interfaces, f.id ≠ id →
    f ∈ after.interfaces ∧ after.rulesOf f.id = before.rulesOf f.id
  written : ∀ f ∈ after.interfaces, f ∈ before.interfaces ∨ f = ⟨id, i⟩
  added : ∀ r ∈ after.rules, r ∈ before.rules ∨ r.value.interfaceId = some id
  outcomes : after.outcomes = before.outcomes
  headers : after.headers = before.headers
  lines : after.lines = before.lines

section Keys

variable {t : Tables} {next : Nat}

/-- A feed that bears the identity of the feed of `i` is that feed. -/
theorem Keyed.feed?_eq (h : t.Keyed next) {i : Interface} {f : Stored Interface}
    (hMem : f ∈ t.interfaces) (hId : f.id = t.feedId i next) : t.feed? i = some f := by
  rcases t.feedId_cases i next with ⟨g, hFeed, hSame, -⟩ | ⟨-, hNew, -⟩
  · have hFound := (feed?_eq_some hFeed).1
    have hEqual : f = g := List.inj_on_of_nodup_map h.distinct hMem hFound (hId.trans hSame)
    rw [hEqual, hFeed]
  · have hBelow := h.issued f hMem
    omega

theorem Keyed.mono (h : t.Keyed next) {next' : Nat} (hNext : next ≤ next') : t.Keyed next' :=
  ⟨h.distinct, fun f hf => Nat.lt_of_lt_of_le (h.issued f hf) hNext⟩

theorem Keyed.next_notMem (h : t.Keyed next) : next ∉ t.interfaces.map Stored.id := by
  intro hIn
  obtain ⟨f, hf, hId⟩ := List.mem_map.mp hIn
  have hBelow := h.issued f hf
  omega

/-- The feed that a load reaches has an identity that has been given out by then. -/
theorem Keyed.feedId_lt (h : t.Keyed next) (i : Interface) :
    t.feedId i next < next + t.feedIds i := by
  rcases t.feedId_cases i next with ⟨g, hFeed, hSame, hNone⟩ | ⟨-, hNew, hOne⟩
  · rw [hSame, hNone]
    exact h.issued g (feed?_eq_some hFeed).1
  · omega

theorem Keyed.loaded (h : t.Keyed next) (c : Config) (replace : Bool) :
    (t.loaded c replace next).Keyed (next + t.feedIds c.interface) := by
  constructor
  · rw [loaded_ids]
    split
    · exact h.distinct
    · rename_i hNew
      -- only a feed that is not found is new, and it takes the next identity
      rcases t.feedId_cases c.interface next with ⟨g, hFeed, hSame, -⟩ | ⟨-, hNext, -⟩
      · exact absurd (List.any_eq_true.mpr ⟨g, (feed?_eq_some hFeed).1, by simp [hSame]⟩) hNew
      · rw [hNext, ← List.concat_eq_append]
        exact h.distinct.concat h.next_notMem
  · intro f hf
    rw [loaded_interfaces] at hf
    rcases mem_put hf with rfl | hOld
    · exact h.feedId_lt c.interface
    · exact Nat.lt_of_lt_of_le (h.issued f hOld) (Nat.le_add_right _ _)

/-- Tables that are left alone are as before. -/
theorem Keyed.reachesOnly_self (h : t.Keyed next) (i : Interface) :
    ReachesOnly (t.feedId i next) i t t where
  target _ hf hId := (feed?_eq_some (h.feed?_eq hf hId)).2
  others _ hf _ := ⟨hf, rfl⟩
  written _ hf := .inl hf
  added _ hr := .inl hr
  outcomes := rfl
  headers := rfl
  lines := rfl

theorem Keyed.reachesOnly_loaded (h : t.Keyed next) (c : Config) (replace : Bool) :
    ReachesOnly (t.feedId c.interface next) c.interface t (t.loaded c replace next) where
  target _ hf hId := (feed?_eq_some (h.feed?_eq hf hId)).2
  others _ hf hOther := by
    refine ⟨?_, rulesOf_loaded t c replace next hOther⟩
    rw [loaded_interfaces]
    exact mem_put_of_not hf (by simpa using hOther)
  written _ hf := by
    rw [loaded_interfaces] at hf
    exact (mem_put hf).symm
  added r hr := by
    rw [loaded_rules] at hr
    rcases List.mem_append.mp hr with hKept | hNew
    · left
      cases replace with
      | false => exact hKept
      | true => exact (List.mem_filter.mp hKept).1
    · exact .inr (mem_feedRules hNew).1
  outcomes := (loaded_rest t c replace next).1
  headers := (loaded_rest t c replace next).2.1
  lines := (loaded_rest t c replace next).2.2

end Keys

end Tables

namespace Database

/-- A load reaches one feed, the one that its configuration is for, and leaves all others as they
are, with their rules. -/
theorem load_reachesOnly {db db' : Database} {source : Config.Source} {c : Config} {replace : Bool}
    {result : Except LoadFailure (Stored Interface)} (hKeyed : db.contents.Keyed db.nextId)
    (hRead : source.read = .ok c) (h : (db.load source replace).value = (result, db')) :
    db'.contents.Keyed db'.nextId ∧
      Tables.ReachesOnly (db.contents.feedId c.interface db.nextId) c.interface db.contents
        db'.contents ∧
      (∀ f ∈ db.contents.interfaces,
        f.value.name ≠ c.interface.name ∨ f.value.clientId ≠ c.interface.clientId →
        (c.interface.clientId = none →
          db.contents.interfaces.find? (·.value.name == c.interface.name) ≠ some f) →
        f ∈ db'.contents.interfaces ∧ db'.contents.rulesOf f.id = db.contents.rulesOf f.id) ∧
      ∀ f, result = .ok f →
        f = ⟨db.contents.feedId c.interface db.nextId, c.interface⟩ ∧ f ∈ db'.contents.interfaces := by
  have hReach : db'.contents.Keyed db'.nextId ∧
      Tables.ReachesOnly (db.contents.feedId c.interface db.nextId) c.interface db.contents
        db'.contents ∧
      ∀ f, result = .ok f →
        f = ⟨db.contents.feedId c.interface db.nextId, c.interface⟩ ∧
          f ∈ db'.contents.interfaces := by
    rcases (load_cases h).2 with
      ⟨hTables, hNext, e, rfl⟩ | ⟨c', t, hRead', ht, hTables, hNext, hFeed⟩
    · rw [contents_of_tables hTables]
      exact ⟨hKeyed.mono hNext, hKeyed.reachesOnly_self c.interface, nofun⟩
    · obtain rfl : c = c' := Except.ok.inj (hRead.symm.trans hRead')
      have hBefore : db.contents = t := by rw [contents, ht]; rfl
      have hAfter : db'.contents = t.loaded c replace db.nextId := by rw [contents, hTables]; rfl
      rw [hBefore] at hKeyed
      rw [hBefore, hAfter]
      refine ⟨(hKeyed.loaded c replace).mono (by omega), hKeyed.reachesOnly_loaded c replace, ?_⟩
      intro f hf
      obtain rfl := hFeed f hf
      refine ⟨rfl, ?_⟩
      rw [Tables.loaded_interfaces]
      exact Tables.mem_put_self (by simp)
  obtain ⟨hKeyed', hOnly, hResult⟩ := hReach
  refine ⟨hKeyed', hOnly, ?_, hResult⟩
  intro f hf hPair hFirst
  refine hOnly.others f hf fun hId => ?_
  obtain ⟨hName, hOwner | ⟨hNone, hFound⟩⟩ := hOnly.target f hf hId
  · rcases hPair with hPair | hPair
    · exact hPair hName
    · exact hPair hOwner
  · exact hFirst hNone hFound

/-- A rule for the number of an order. -/
def numberRule : Rule :=
  { name := "number", targetField := "order_number", tableName := "ORDER_HEADERS"
    sourcePath := some "/Order/Id" }

/-- A database with the feed of one owner and its rule. -/
def ofOneOwner : Database where
  tables := some
    { interfaces := [⟨1, { name := "orders", kindTag := "ORDER", clientId := some 7 }⟩]
      rules := [⟨2, ⟨some 1, some 7, numberRule⟩⟩] }
  nextId := 3

theorem ofOneOwner_keyed : ofOneOwner.contents.Keyed ofOneOwner.nextId :=
  ⟨by decide, by decide⟩

/-- A feed of the same name and of another owner stands beside the first one. -/
theorem load_reachesOnly_otherOwner :
    let source : Config.Source := .value (.object
      [("interface", .object [("name", .text "orders"), ("interface_type", .text "ORDER"),
        ("client_id", .whole 8)]), ("rules", .list [])])
    ∃ c, source.read = .ok c ∧
      ofOneOwner.contents.interfaces ⊆ (ofOneOwner.load source true).value.2.contents.interfaces := by
  intro source
  let c : Config := ⟨{ name := "orders", kindTag := "ORDER", clientId := some 8 }, []⟩
  have hRead : source.read = .ok c := rfl
  have hLoad : (ofOneOwner.load source true).value =
      ((ofOneOwner.load source true).value.1, (ofOneOwner.load source true).value.2) := rfl
  obtain ⟨-, -, hOthers, -⟩ := load_reachesOnly ofOneOwner_keyed hRead hLoad
  refine ⟨c, hRead, fun f hf => (hOthers f hf ?_ nofun).1⟩
  rw [List.mem_singleton.mp hf]
  exact .inr (by decide)

/-- A configuration without an owner takes the feed of one over, and replaces its rules. -/
theorem load_reachesOnly_unowned :
    let source : Config.Source := .value (.object
      [("interface", .object [("name", .text "orders"), ("interface_type", .text "ORDER")]),
        ("rules", .list [])])
    ofOneOwner.contents.Keyed ofOneOwner.nextId ∧
    ∃ c f, source.read = .ok c ∧ c.interface.clientId = none ∧
      f ∈ ofOneOwner.contents.interfaces ∧ f.value.clientId ≠ c.interface.clientId ∧
      ofOneOwner.contents.rulesOf f.id ≠ [] ∧
      f ∉ (ofOneOwner.load source true).value.2.contents.interfaces ∧
      (ofOneOwner.load source true).value.2.contents.rulesOf f.id = [] := by
  intro source
  let c : Config := ⟨{ name := "orders", kindTag := "ORDER" }, []⟩
  let f : Stored Interface := ⟨1, { name := "orders", kindTag := "ORDER", clientId := some 7 }⟩
  have hRead : source.read = .ok c := rfl
  have hLoaded : (ofOneOwner.load source true).value.2.contents =
      { interfaces := [⟨1, c.interface⟩], rules := [] } := by decide +kernel
  refine ⟨ofOneOwner_keyed, c, f, hRead, rfl, by decide, by decide, by decide, ?_, ?_⟩
  · rw [hLoaded]
    decide
  · rw [hLoaded]
    rfl

end Database

end Intake
