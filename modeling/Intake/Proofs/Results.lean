import Intake.Log.Basic

/-! Results that may be errors or missing: what it takes for a composed computation to give one. -/

namespace Intake

variable {ε α β : Type}

theorem bind_eq_ok {x : Except ε α} {f : α → Except ε β} {b : β} :
    x >>= f = .ok b ↔ ∃ a, x = .ok a ∧ f a = .ok b := by
  cases x with
  | error e => exact ⟨nofun, fun ⟨_, h, _⟩ => nomatch h⟩
  | ok a => exact ⟨fun h => ⟨a, rfl, h⟩, fun ⟨_, rfl, h⟩ => h⟩

theorem map_eq_ok {x : Except ε α} {f : α → β} {b : β} :
    x.map f = .ok b ↔ ∃ a, x = .ok a ∧ f a = b := by
  cases x <;> simp [Except.map]

theorem bind_eq_error {x : Except ε α} {f : α → Except ε β} {e : ε} :
    x >>= f = .error e ↔ x = .error e ∨ ∃ a, x = .ok a ∧ f a = .error e := by
  cases x with
  | error e' =>
    constructor
    · exact fun h => .inl (by cases h; rfl)
    · rintro (h | ⟨_, h, _⟩) <;> cases h
      rfl
  | ok a =>
    constructor
    · exact fun h => .inr ⟨a, rfl, h⟩
    · rintro (h | ⟨_, h, hf⟩) <;> cases h
      exact hf

theorem map_eq_error {x : Except ε α} {f : α → β} {e : ε} :
    x.map f = .error e ↔ x = .error e := by
  cases x <;> simp [Except.map]

theorem toOption_map_eq_some {x : Except ε α} {f : α → β} {b : β} :
    x.toOption.map f = some b ↔ ∃ a, x = .ok a ∧ f a = b := by
  cases x <;> simp [Except.toOption]

@[simp] theorem mapError_ok {ε' : Type} {f : ε → ε'} {a : α} :
    (Except.ok a).mapError f = .ok a := rfl

@[simp] theorem mapError_error {ε' : Type} {f : ε → ε'} {e : ε} :
    (Except.error e : Except ε α).mapError f = .error (f e) := rfl

theorem mapError_eq_ok {ε' : Type} {x : Except ε α} {f : ε → ε'} {a : α} :
    x.mapError f = .ok a ↔ x = .ok a := by
  cases x <;> simp

theorem eq_ok_of_isOk {x : Except ε Unit} (h : x.isOk) : x = .ok () := by
  cases x with
  | error e => cases h
  | ok done => rfl

theorem ite_error_eq_ok {p : Prop} [Decidable p] {e : ε} {x : Except ε α} {a : α} :
    (if p then .error e else x) = .ok a ↔ ¬p ∧ x = .ok a := by
  by_cases h : p <;> simp [h]

theorem mem_of_lookup [BEq α] [LawfulBEq α] {a : α} {b : β} {entries : List (α × β)}
    (h : entries.lookup a = some b) : (a, b) ∈ entries := by
  obtain ⟨before, after, rfl, -⟩ := List.lookup_eq_some_iff.mp h
  simp

theorem filterAuxM_eq_ok {p : α → Except ε Bool} {l acc kept : List α}
    (h : l.filterAuxM p acc = .ok kept) :
    ∃ found : List α, found.Sublist l ∧ kept = found.reverse ++ acc := by
  induction l generalizing acc with
  | nil =>
    cases h
    exact ⟨[], .slnil, rfl⟩
  | cons a l ih =>
    rw [List.filterAuxM, bind_eq_ok] at h
    obtain ⟨isKept, -, h⟩ := h
    obtain ⟨found, hFound, rfl⟩ := ih h
    cases isKept with
    | false => exact ⟨found, hFound.cons a, rfl⟩
    | true => exact ⟨a :: found, hFound.cons_cons a, by simp⟩

/-- What a predicate that may fail keeps of a list is some of it, in the same order. -/
theorem sublist_of_filterM {p : α → Except ε Bool} {l kept : List α}
    (h : l.filterM p = .ok kept) : kept.Sublist l := by
  rw [List.filterM, bind_eq_ok] at h
  obtain ⟨reversed, hKept, h⟩ := h
  obtain ⟨found, hFound, rfl⟩ := filterAuxM_eq_ok hKept
  cases h
  simpa using hFound

/-- What is found for all members of a list is found for one of them. -/
theorem exists_of_mem_mapM {f : α → Option β} {l : List α} {found : List β}
    (h : l.mapM f = some found) {b : β} (hb : b ∈ found) : ∃ a ∈ l, f a = some b := by
  induction l generalizing found with
  | nil =>
    cases h
    cases hb
  | cons a l ih =>
    rw [List.mapM_cons] at h
    obtain ⟨b', hFirst, h⟩ := Option.bind_eq_some_iff.mp h
    obtain ⟨rest, hRest, h⟩ := Option.bind_eq_some_iff.mp h
    cases h
    rcases List.mem_cons.mp hb with rfl | hb
    · exact ⟨a, List.mem_cons_self, hFirst⟩
    · obtain ⟨a', ha', hFound⟩ := ih hRest hb
      exact ⟨a', List.mem_cons_of_mem a ha', hFound⟩

/-- What comes of all members of a list is as long as the list, and each of it comes of a member. -/
theorem mapM_eq_ok {f : α → Except ε β} {l : List α} {found : List β}
    (h : l.mapM f = .ok found) :
    found.length = l.length ∧ ∀ b ∈ found, ∃ a ∈ l, f a = .ok b := by
  induction l generalizing found with
  | nil =>
    cases h
    exact ⟨rfl, nofun⟩
  | cons a l ih =>
    rw [List.mapM_cons] at h
    obtain ⟨b, hFirst, h⟩ := bind_eq_ok.mp h
    obtain ⟨rest, hRest, h⟩ := bind_eq_ok.mp h
    cases h
    obtain ⟨hLength, hMember⟩ := ih hRest
    refine ⟨congrArg Nat.succ hLength, fun b' hb' => ?_⟩
    rcases List.mem_cons.mp hb' with rfl | hb'
    · exact ⟨a, List.mem_cons_self, hFirst⟩
    · obtain ⟨a', ha', hFound⟩ := hMember b' hb'
      exact ⟨a', List.mem_cons_of_mem a ha', hFound⟩

/-- What fails for a list fails for a member of it. -/
theorem exists_of_mapM_eq_error {f : α → Except ε β} {l : List α} {e : ε}
    (h : l.mapM f = .error e) : ∃ a ∈ l, f a = .error e := by
  induction l with
  | nil => cases h
  | cons a l ih =>
    rw [List.mapM_cons] at h
    rcases bind_eq_error.mp h with hFirst | ⟨_, -, h⟩
    · exact ⟨a, List.mem_cons_self, hFirst⟩
    rcases bind_eq_error.mp h with hRest | ⟨_, -, h⟩
    · obtain ⟨a', ha', hFails⟩ := ih hRest
      exact ⟨a', List.mem_cons_of_mem a ha', hFails⟩
    · cases h

theorem filterAuxM_ok (p : α → Bool) (l acc : List α) :
    l.filterAuxM (fun a => (.ok (p a) : Except ε Bool)) acc =
      .ok ((l.filter p).reverse ++ acc) := by
  induction l generalizing acc with
  | nil => rfl
  | cons a l ih =>
    have hNext : (a :: l).filterAuxM (fun a => (.ok (p a) : Except ε Bool)) acc =
        l.filterAuxM (fun a => .ok (p a)) (cond (p a) (a :: acc) acc) := rfl
    rw [hNext, ih]
    cases hKept : p a <;> simp [hKept]

/-- A predicate that never fails filters a list. -/
theorem filterM_ok (p : α → Bool) (l : List α) :
    l.filterM (fun a => (.ok (p a) : Except ε Bool)) = .ok (l.filter p) := by
  rw [List.filterM, filterAuxM_ok, List.append_nil]
  change Except.ok _ = _
  rw [List.reverse_reverse]

end Intake
