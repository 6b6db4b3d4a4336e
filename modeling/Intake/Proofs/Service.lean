import Intake.Proofs.Attempt.Exchange
import Intake.Proofs.Attempt.Writing
import Intake.Service

/-! The exchanges of the service with its store over a document: they lead the store from the state in
which it was to the one in which it is left, and they are those of a writer, or record that no attempt
could be made. -/

namespace Intake.Service

variable {σ τ : Type}

/-- The same reply with a store seen through `f`. -/
def Reply.mapStore (f : τ → σ) (r : Reply τ) : Reply σ where
  outcome := r.outcome
  stages := r.stages
  store := f r.store
  nextId := r.nextId
  log := r.log

section Refinement

variable {f : τ → σ} {fine : Repository τ} {coarse : Repository σ} {s : MappingSettings}
  {now : Calendar.DateTime} {d : Delivery} {store : τ} {nextId : Nat} {log : List Log.Entry}

theorem recordFailure_refines (h : Repository.Refines f fine coarse) (kindTag : Option String)
    (message : String) :
    recordFailure coarse s now d kindTag message (f store) nextId log =
      (recordFailure fine s now d kindTag message store nextId log).mapStore f := by
  unfold recordFailure
  simp only [(h.record _ store).1, (h.record _ store).2]
  generalize fine.record _ store = call
  rcases call with ⟨⟨_ | _, _⟩, _⟩ <;> rfl

theorem processDocument_refines (h : Repository.Refines f fine coarse) (document : Xml.Document) :
    processDocument coarse s now d document (f store) nextId log =
      (processDocument fine s now d document store nextId log).mapStore f := by
  unfold processDocument
  dsimp only
  split
  · exact recordFailure_refines h _ _
  · rw [Attempt.run_refines h]
    rfl

/-- Documents are processed in the same way with two stores that agree. -/
theorem process_refines (h : Repository.Refines f fine coarse) (s : MappingSettings)
    (now : Calendar.DateTime) (d : Delivery) (store : τ) (nextId : Nat) :
    process coarse s now d (f store) nextId =
      (process fine s now d store nextId).mapStore f := by
  unfold process
  dsimp only
  split
  · exact recordFailure_refines h _ _
  · exact processDocument_refines h _

end Refinement

variable {repo : Repository σ} {s : MappingSettings} {now : Calendar.DateTime} {d : Delivery}
  {store : σ} {nextId : Nat}

/-- The service keeps what every call of its store keeps. -/
theorem process_keeps {P : σ → Prop} (h : repo.Keeps P) (hStore : P store) :
    P (process repo s now d store nextId).store := by
  -- With a store that has no other states, the state that is left has the property by its type.
  have hRun : process repo s now d store nextId =
      (process (repo.within h) s now d ⟨store, hStore⟩ nextId).mapStore Subtype.val :=
    process_refines (Repository.within_refines h) s now d ⟨store, hStore⟩ nextId
  rw [hRun]
  exact (process (repo.within h) s now d ⟨store, hStore⟩ nextId).store.2

/-- The exchanges with the store over a document, in their order. -/
def exchanges (repo : Repository σ) (s : MappingSettings) (now : Calendar.DateTime) (d : Delivery)
    (store : σ) (nextId : Nat) : List Exchange :=
  (process repo.traced s now d ⟨store, []⟩ nextId).store.exchanges

/-- The exchanges lead the store to the state in which it is left. -/
theorem exchanges_lead (repo : Repository σ) (s : MappingSettings) (now : Calendar.DateTime)
    (d : Delivery) (store : σ) (nextId : Nat) :
    repo.Leads (exchanges repo s now d store nextId) store
      (process repo s now d store nextId).store := by
  have hRun : process repo s now d store nextId =
      (process repo.traced s now d ⟨store, []⟩ nextId).mapStore Traced.store :=
    process_refines repo.traced_refines s now d ⟨store, []⟩ nextId
  rw [hRun]
  exact process_keeps (repo.traced_keeps store) (.nil store)

/-- What a reply and the exchanges before it come to: some identities have been given out, and the
exchanges are those of a writer that has these to give. -/
def Allowed (nextId : Nat) (r : Reply σ) (es : List Exchange) : Prop :=
  nextId ≤ r.nextId ∧ ∃ kind clientId,
    (⟨kind, clientId, nextId, r.nextId⟩ : Writer).AllowsAll .opening es

theorem recordFailure_allowed (repo : Repository σ) (kindTag : Option String) (message : String)
    (log : List Log.Entry) :
    Allowed nextId (recordFailure repo s now d kindTag message store nextId log)
      (recordFailure repo.traced s now d kindTag message ⟨store, []⟩ nextId log).store.exchanges := by
  have hRefused : ∀ o answer, o.status = .error → ∀ w : Writer,
      w.AllowsAll .opening [.record o answer] :=
    fun o answer hStatus w => ⟨.record answer (by rw [hStatus]; nofun), trivial⟩
  unfold recordFailure Allowed
  dsimp only [Repository.traced, Logged.traced]
  rcases repo.record _ store with ⟨⟨_ | _, _⟩, _⟩
  · exact ⟨Nat.le_succ nextId, .order, none, hRefused _ _ rfl _⟩
  · exact ⟨Nat.le_succ nextId, .order, none, hRefused _ _ rfl _⟩

theorem processDocument_allowed (keeps : repo.KeepsOutcomes) (document : Xml.Document)
    (log : List Log.Entry) :
    Allowed nextId (processDocument repo s now d document store nextId log)
      (processDocument repo.traced s now d document ⟨store, []⟩ nextId log).store.exchanges := by
  unfold processDocument
  dsimp only
  split
  · exact recordFailure_allowed repo _ _ _
  · next kind _ =>
    obtain ⟨hNext, hAllowed⟩ := Attempt.exchanges_allowed keeps
      { kind, settings := s, now, document, interface := d.interface, clientId := d.owner,
        fileName := d.knownFileName } store nextId _
    exact ⟨hNext, kind, d.owner, hAllowed⟩

/-- The exchanges over a document are those of a writer. -/
theorem exchanges_allowed (keeps : repo.KeepsOutcomes) (s : MappingSettings)
    (now : Calendar.DateTime) (d : Delivery) (store : σ) (nextId : Nat) :
    Allowed nextId (process repo s now d store nextId) (exchanges repo s now d store nextId) := by
  unfold exchanges process
  dsimp only
  split
  · exact recordFailure_allowed repo _ _ _
  · exact processDocument_allowed keeps _ _

end Intake.Service
