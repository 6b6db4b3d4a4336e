import Intake.Proofs.Attempt.Messages
import Intake.Proofs.Config.Accepted

/-! What the service answers with. The record of an attempt says what came of the document, in a message
that keeps to its limit; and it says where the document came from, wherever the attempt ended. -/

namespace Intake

/-- A record names the feed, the owner and the file of a document, and a tag for its kind. -/
structure Outcome.From (o : Outcome) (d : Service.Delivery) (kindTag : Option String) : Prop where
  interfaceId : o.interfaceId = d.interface.map Stored.id
  clientId : o.clientId = d.owner
  fileName : o.fileName = d.knownFileName
  kindTag : o.kindTag = kindTag

namespace Service

open Attempt (TellsFailures)

variable {σ : Type} {repo : Repository σ} {s : MappingSettings} {now : Calendar.DateTime}
  {d : Delivery} {document : Xml.Document} {store : σ} {nextId : Nat} {log : List Log.Entry}

/-- The task that a document of a known kind makes. -/
def Delivery.task (d : Delivery) (s : MappingSettings) (now : Calendar.DateTime)
    (document : Xml.Document) (kind : DocumentKind) : Task :=
  { kind, settings := s, now, document, interface := d.interface, clientId := d.owner,
    fileName := d.knownFileName }

/-- A document that has been read is of no known kind, or is processed. -/
theorem processDocument_cases (repo : Repository σ) (s : MappingSettings) (now : Calendar.DateTime)
    (d : Delivery) (document : Xml.Document) (store : σ) (nextId : Nat) (log : List Log.Entry) :
    (DocumentKind.ofTag? (kindTagOf document d.interface) = none ∧
      ∃ log', processDocument repo s now d document store nextId log =
        recordFailure repo s now d (some (kindTagOf document d.interface))
          (DocumentKind.unknownTag (some (kindTagOf document d.interface))).message store nextId
          log') ∨
    ∃ kind log', DocumentKind.ofTag? (kindTagOf document d.interface) = some kind ∧
      (processDocument repo s now d document store nextId log).outcome =
        (Attempt.run repo (d.task s now document kind) store nextId log').outcome := by
  unfold processDocument
  dsimp only
  split
  · next hUnknown => exact .inl ⟨hUnknown, _, rfl⟩
  · next kind hKind => exact .inr ⟨kind, _, hKind, rfl⟩

/-- A document as it arrives is refused, or is processed once it has been read. -/
theorem process_cases (repo : Repository σ) (s : MappingSettings) (now : Calendar.DateTime)
    (d : Delivery) (store : σ) (nextId : Nat) :
    (∃ refusal log, d.source.read.value = .error refusal ∧
      process repo s now d store nextId =
        recordFailure repo s now d (d.interface.map fun i => i.value.kindTag) refusal.message store
          nextId log) ∨
    ∃ document log, d.source.read.value = .ok document ∧
      process repo s now d store nextId = processDocument repo s now d document store nextId log := by
  unfold process
  dsimp only
  split
  · next refusal hRefused => exact .inl ⟨refusal, _, hRefused, rfl⟩
  · next document hRead => exact .inr ⟨document, _, hRead, rfl⟩

/-- The record of a document that no attempt could be made at. If the store does not take it, its message
goes on with the reason for that. -/
theorem recordFailure_outcome (keeps : repo.KeepsOutcomes) (s : MappingSettings)
    (now : Calendar.DateTime) (d : Delivery) (kindTag : Option String) (message : String) (store : σ)
    (nextId : Nat) (log : List Log.Entry) :
    ∃ more, (recordFailure repo s now d kindTag message store nextId log).outcome =
      { id := nextId, createdAt := now, fileName := d.knownFileName, kindTag, status := .error
        message := some (truncated (message ++ more) s.trailLength)
        interfaceId := d.interface.map Stored.id, clientId := d.owner, processedAt := some now } := by
  unfold recordFailure
  dsimp only
  split
  · next recorded store' hAnswer =>
    refine ⟨"", ?_⟩
    cases recorded with
    | none => rw [String.append_empty]; rfl
    | some kept =>
      rw [String.append_empty]
      exact keeps _ _ _ _ hAnswer
  · next reason store' hAnswer =>
    exact ⟨Trail.separator ++ Call.record.failure reason, by rw [String.append_assoc]⟩

section Messages

theorem recordFailure_reports (keeps : repo.KeepsOutcomes) (hLimit : 3 ≤ s.trailLength)
    (now : Calendar.DateTime) (d : Delivery) (kindTag : Option String) {message : String}
    (hMessage : message ≠ "") (store : σ) (nextId : Nat) (log : List Log.Entry) :
    (recordFailure repo s now d kindTag message store nextId log).outcome.Reports s.trailLength ∧
      (recordFailure repo s now d kindTag message store nextId log).outcome.status ≠ .success := by
  obtain ⟨more, hOutcome⟩ :=
    recordFailure_outcome keeps s now d kindTag message store nextId log
  rw [hOutcome]
  refine ⟨⟨.inr rfl, fun m hRender => ?_, fun _ => ⟨_, rfl, truncated_ne_empty ?_⟩⟩, nofun⟩
  · cases hRender
    exact length_truncated hLimit
  · intro hNone
    exact hMessage (String.append_eq_empty_iff.mp hNone).1

theorem unknownTag_message_ne_empty (tag : Option String) :
    (DocumentKind.unknownTag tag).message ≠ "" := by
  intro hNone
  have hStart : "Unsupported document type: " = "" :=
    (String.append_eq_empty_iff.mp (String.append_eq_empty_iff.mp hNone).1).1
  exact absurd hStart (by decide)

/-- The record `o` reports what came of a document that has been read; if that is a success, its message
tells the failures on the way. -/
def Tells (repo : Repository σ) (s : MappingSettings) (now : Calendar.DateTime) (d : Delivery)
    (document : Xml.Document) (store : σ) (nextId : Nat) (o : Outcome) : Prop :=
  o.Reports s.trailLength ∧
    (o.status = .success →
      ∃ kind log, DocumentKind.ofTag? (kindTagOf document d.interface) = some kind ∧
        TellsFailures (d.task s now document kind) nextId
          (Attempt.exchanges repo (d.task s now document kind) store nextId log) o.message)

theorem processDocument_tells (keeps : repo.KeepsOutcomes) (hLimit : 3 ≤ s.trailLength)
    (now : Calendar.DateTime) (d : Delivery) (document : Xml.Document) (store : σ) (nextId : Nat)
    (log : List Log.Entry) :
    Tells repo s now d document store nextId
      (processDocument repo s now d document store nextId log).outcome := by
  rcases processDocument_cases repo s now d document store nextId log with
    ⟨-, log', hRefused⟩ | ⟨kind, log', hKind, hRun⟩
  · obtain ⟨hReports, hFailed⟩ := recordFailure_reports keeps hLimit now d
      (some (kindTagOf document d.interface)) (unknownTag_message_ne_empty _) store nextId log'
    rw [hRefused]
    exact ⟨hReports, fun hSuccess => absurd hSuccess hFailed⟩
  · rw [hRun]
    exact ⟨Attempt.run_reports keeps (d.task s now document kind) (fun _ => rfl) hLimit store nextId log',
      fun hSuccess => ⟨kind, log', hKind, Attempt.run_tellsFailures keeps hSuccess⟩⟩

/-- Whatever the store answers, the service reports what came of a document: in a message that keeps to
the limit, is there if the document failed, and is missing on a success exactly if nothing failed on the
way. -/
theorem process_reports (keeps : repo.KeepsOutcomes) (hLimit : 3 ≤ s.trailLength)
    (now : Calendar.DateTime) (d : Delivery) (store : σ) (nextId : Nat) :
    (process repo s now d store nextId).outcome.Reports s.trailLength ∧
      ((process repo s now d store nextId).outcome.status = .success →
        ∃ document, d.source.read.value = .ok document ∧
          Tells repo s now d document store nextId (process repo s now d store nextId).outcome) ∧
      ∀ document log, Tells repo s now d document store nextId
        (processDocument repo s now d document store nextId log).outcome := by
  have hRead := fun document log =>
    processDocument_tells keeps hLimit now d document store nextId log
  rcases process_cases repo s now d store nextId with
    ⟨refusal, log, -, hRefused⟩ | ⟨document, log, hDocument, hProcessed⟩
  · have hMessage : refusal.message ≠ "" := by cases refusal <;> decide
    obtain ⟨hReports, hFailed⟩ := recordFailure_reports keeps hLimit now d
      (d.interface.map fun i => i.value.kindTag) hMessage store nextId log
    rw [hRefused]
    exact ⟨hReports, fun hSuccess => absurd hSuccess hFailed, hRead⟩
  · rw [hProcessed]
    exact ⟨(hRead document log).1, fun _ => ⟨document, hDocument, hRead document log⟩, hRead⟩

/-- The store does not take the record of a document that there is nothing of. -/
theorem process_reports_untaken :
    let repo := Memory.repository fun _ _ _ => some (.breakdown "full")
    let s : MappingSettings := { trailLength := 12 }
    let d : Delivery := { source := .bytes [] }
    repo.KeepsOutcomes ∧ 3 ≤ s.trailLength ∧
      (process repo s default d {} 1).outcome.Reports s.trailLength ∧
      (process repo s default d {} 1).outcome.message = some "Document ..." := by
  intro repo s d
  have keeps : repo.KeepsOutcomes := Memory.repository_keepsOutcomes _
  have hLimit : 3 ≤ s.trailLength := by decide
  exact ⟨keeps, hLimit, (process_reports keeps hLimit default d {} 1).1, by decide +kernel⟩

end Messages

section Provenance

theorem recordFailure_from (keeps : repo.KeepsOutcomes) (kindTag : Option String)
    (message : String) :
    (recordFailure repo s now d kindTag message store nextId log).outcome.From d kindTag := by
  obtain ⟨more, hOutcome⟩ :=
    recordFailure_outcome keeps s now d kindTag message store nextId log
  rw [hOutcome]
  exact ⟨rfl, rfl, rfl, rfl⟩

/-- An attempt never changes what its record says of where the document came from. -/
theorem run_from (keeps : repo.KeepsOutcomes) (kind : DocumentKind) :
    (Attempt.run repo (d.task s now document kind) store nextId log).outcome.From d
      (some kind.tag) := by
  obtain ⟨before, result, trail, last, answer, hEnded⟩ :=
    Attempt.run_ended repo (d.task s now document kind) store nextId log
  obtain ⟨headerId, lineCount, hLast⟩ := hEnded.opened keeps
  have hSettled : ∀ status,
      (Attempt.settle (d.task s now document kind) status last).outcome.From d (some kind.tag) := by
    intro status
    unfold Attempt.settle
    rw [hLast]
    exact ⟨rfl, rfl, rfl, rfl⟩
  rw [hEnded.reply keeps]
  cases answer with
  | ok recorded => exact hSettled _
  | error reason =>
    obtain ⟨hInterface, hClient, hFile, hTag⟩ := hSettled (Attempt.closingStatus result)
    exact ⟨hInterface, hClient, hFile, hTag⟩

/-- The tag of a feed in capital letters and without the blanks around it. -/
def normalTag (i : Stored Interface) : String := Text.upper (Text.trim i.value.kindTag)

/-- The tag under which the documents of a feed are recorded that can be read. -/
def recordedTag (i : Stored Interface) : String :=
  ((DocumentKind.ofTag? (normalTag i)).map DocumentKind.tag).getD (normalTag i)

theorem recordedTag_of_normal {i : Stored Interface} (hNormal : normalTag i = i.value.kindTag) :
    recordedTag i = i.value.kindTag := by
  rw [recordedTag, hNormal]
  cases hOf : DocumentKind.ofTag? i.value.kindTag with
  | none => rfl
  | some kind => exact (Config.ofTag?_eq_some hOf).symm.trans hNormal

variable {i : Stored Interface}

theorem processDocument_from (keeps : repo.KeepsOutcomes) (hFeed : d.interface = some i)
    (hTag : i.value.kindTag.isEmpty = false) :
    (processDocument repo s now d document store nextId log).outcome.From d
      (some (recordedTag i)) := by
  have hKind : kindTagOf document d.interface = normalTag i := by
    rw [hFeed, kindTagOf]
    simp only [hTag, Bool.false_eq_true, if_false]
    rfl
  rcases processDocument_cases repo s now d document store nextId log with
    ⟨hUnknown, log', hRefused⟩ | ⟨kind, log', hKnown, hRun⟩
  · rw [hKind] at hUnknown
    rw [hRefused, recordedTag, hUnknown, hKind]
    exact recordFailure_from keeps _ _
  · rw [hKind] at hKnown
    rw [hRun, recordedTag, hKnown]
    exact run_from keeps kind

/-- What the service records of where a document came from. The tag alone depends on the document: it is
that of the feed as it stands if the document cannot be read. -/
theorem process_from (keeps : repo.KeepsOutcomes) (hFeed : d.interface = some i)
    (hTag : i.value.kindTag.isEmpty = false) :
    (process repo s now d store nextId).outcome.From d
      (some (if d.source.read.value.isOk then recordedTag i else i.value.kindTag)) := by
  rcases process_cases repo s now d store nextId with
    ⟨refusal, log, hRefused, hRecorded⟩ | ⟨document, log, hRead, hProcessed⟩
  · -- Nothing has resolved the tag yet.
    have hAsItStands : (d.interface.map fun i => i.value.kindTag) = some i.value.kindTag := by
      rw [hFeed]
      rfl
    rw [hRecorded, hRefused, hAsItStands]
    exact recordFailure_from keeps _ _
  · rw [hProcessed, hRead]
    exact processDocument_from keeps hFeed hTag

variable {σ₁ σ₂ : Type} {repo₁ : Repository σ₁} {repo₂ : Repository σ₂}

/-- Two documents that are delivered through the same feed for the same owner under the same name are
recorded with the same feed and owner, whatever they hold and whatever the stores answer. The file is the
one that is named, or else the one that the document is read from. The tag is the same if both documents
can be read or neither can, or if the feed has its tag in its normal form. -/
theorem process_provenance (keeps₁ : repo₁.KeepsOutcomes) (keeps₂ : repo₂.KeepsOutcomes)
    (s : MappingSettings) (now₁ now₂ : Calendar.DateTime) (d₁ d₂ : Delivery)
    (hTag : i.value.kindTag.isEmpty = false) (hFeed₁ : d₁.interface = some i)
    (hFeed₂ : d₂.interface = some i) (hClient : d₁.clientId = d₂.clientId)
    (hName : d₁.fileName = d₂.fileName) (store₁ : σ₁) (store₂ : σ₂) (nextId₁ nextId₂ : Nat) :
    let o₁ := (process repo₁ s now₁ d₁ store₁ nextId₁).outcome
    let o₂ := (process repo₂ s now₂ d₂ store₂ nextId₂).outcome
    o₁.interfaceId = o₂.interfaceId ∧ o₁.clientId = o₂.clientId ∧
      o₁.fileName = d₁.knownFileName ∧ o₂.fileName = d₂.knownFileName ∧
      (d₁.fileName.isSome → o₁.fileName = o₂.fileName) ∧
      (d₁.source.read.value.isOk = d₂.source.read.value.isOk → o₁.kindTag = o₂.kindTag) ∧
      (normalTag i = i.value.kindTag → o₁.kindTag = o₂.kindTag) := by
  intro o₁ o₂
  have h₁ : o₁.From d₁ _ := process_from keeps₁ hFeed₁ hTag
  have h₂ : o₂.From d₂ _ := process_from keeps₂ hFeed₂ hTag
  refine ⟨?_, ?_, h₁.fileName, h₂.fileName, ?_, ?_, ?_⟩
  · rw [h₁.interfaceId, h₂.interfaceId, hFeed₁, hFeed₂]
  · rw [h₁.clientId, h₂.clientId, Delivery.owner, Delivery.owner, hFeed₁, hFeed₂, hClient]
  · intro hGiven
    obtain ⟨name, hGiven⟩ := Option.isSome_iff_exists.mp hGiven
    rw [h₁.fileName, h₂.fileName, Delivery.knownFileName, Delivery.knownFileName, ← hName, hGiven]
  · intro hRead
    rw [h₁.kindTag, h₂.kindTag, hRead]
  · intro hNormal
    rw [h₁.kindTag, h₂.kindTag, recordedTag_of_normal hNormal, ite_self, ite_self]

/-- The feed of orders, with its tag as it may be written. -/
def ordersFeed (kindTag : String) : Stored Interface := ⟨1, { name := "orders", kindTag }⟩

/-- A document that cannot be read and one that is there, the second with a store that breaks down. -/
theorem process_provenance_orders :
    let repo₁ := Memory.repository fun _ _ _ => none
    let repo₂ := Memory.repository fun _ _ _ => some (.breakdown "full")
    let i := ordersFeed "ORDER"
    let d₁ : Delivery := { source := .bytes [], interface := some i, fileName := some "a.xml" }
    let d₂ : Delivery := { source := .ofText "<Order/>", interface := some i, fileName := some "a.xml" }
    let o₁ := (process repo₁ {} default d₁ {} 1).outcome
    let o₂ := (process repo₂ {} default d₂ {} 1).outcome
    i.value.kindTag.isEmpty = false ∧ normalTag i = i.value.kindTag ∧
      d₁.source.read.value.isOk ≠ d₂.source.read.value.isOk ∧ o₁.interfaceId = o₂.interfaceId ∧
      o₁.clientId = o₂.clientId ∧ o₁.fileName = o₂.fileName ∧ o₁.kindTag = o₂.kindTag := by
  intro repo₁ repo₂ i d₁ d₂ o₁ o₂
  have keeps₁ : repo₁.KeepsOutcomes := Memory.repository_keepsOutcomes _
  have keeps₂ : repo₂.KeepsOutcomes := Memory.repository_keepsOutcomes _
  have hTag : i.value.kindTag.isEmpty = false := by decide
  have hNormal : normalTag i = i.value.kindTag := by decide +kernel
  obtain ⟨hInterface, hClient, -, -, hFile, -, hKind⟩ :=
    process_provenance keeps₁ keeps₂ {} default default d₁ d₂ hTag rfl rfl rfl rfl {} {} 1 1
  exact ⟨hTag, hNormal, by decide +kernel, hInterface, hClient, hFile rfl, hKind hNormal⟩

/-- The name of the file is recorded that a document is read from, so two documents for which no name is
given are recorded under two names. -/
theorem process_provenance_twoFiles :
    let repo := Memory.repository fun _ _ _ => none
    let delivery (path : String) : Delivery :=
      { source := .file path none, interface := some (ordersFeed "ORDER") }
    repo.KeepsOutcomes ∧ (delivery "a.xml").fileName = (delivery "b.xml").fileName ∧
      (process repo {} default (delivery "a.xml") {} 1).outcome.fileName = some "a.xml" ∧
      (process repo {} default (delivery "b.xml") {} 1).outcome.fileName = some "b.xml" := by
  intro repo delivery
  exact ⟨Memory.repository_keepsOutcomes _, by decide +kernel⟩

end Provenance

end Service

end Intake
