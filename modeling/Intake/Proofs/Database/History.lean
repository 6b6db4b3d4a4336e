import Intake.Proofs.Database.Consistency
import Intake.Proofs.Service

/-! The history of a database. A header, its lines and the record of a success are committed one after
the other, each in a session of its own, and any of these may fail. What the tables hold in between is
what the progress of the writer says, so that the tables are consistent after every call, over any
number of documents. -/

namespace Intake

open Database (keptRecord)

namespace Tables

/-- What the tables hold once a header has come back: the document with the lines stored so far, which
no success on record is about yet. -/
structure Awaits (t : Tables) (w : Writer) (header : Record) (count id : Nat) : Prop where
  named : header.id? = some id
  stored : header ∈ t.headersOf w.kind
  holds : t.Holds w.kind id w.clientId count
  unclaimed : ∀ o ∈ t.outcomes, o.status = .success → o.headerId ≠ some id

/-- What the tables hold at a point in the progress of a writer. -/
def Reached (t : Tables) (w : Writer) : Progress → Prop
  | .opening => ∀ header ∈ t.headers, ∀ id, header.id? = some id → id < w.low
  | .headed header count => ∃ id, t.Awaits w header count id
  | .spent => True

/-- The tables are consistent at a point in the progress of a writer, and no header has an identity that
the writer cannot have given to it. -/
structure ConsistentAt (t : Tables) (w : Writer) (p : Progress) : Prop where
  consistent : t.Consistent
  issued : ∀ header ∈ t.headers, ∀ id, header.id? = some id → id < w.high
  reached : t.Reached w p

namespace ConsistentAt

variable {t : Tables} {w : Writer} {p : Progress}

theorem spent (h : t.ConsistentAt w p) : t.ConsistentAt w .spent := ⟨h.consistent, h.issued, trivial⟩

/-- Before a header is stored, no success on record names an identity of the writer. -/
theorem headerId_ne (h : t.ConsistentAt w .opening) {id : Nat} (hLow : w.low ≤ id) {o : Outcome}
    (hMem : o ∈ t.outcomes) (hSuccess : o.status = .success) : o.headerId ≠ some id := by
  intro hSame
  obtain ⟨kind, other, -, hOther, hHolds⟩ := h.consistent.successes o hMem hSuccess
  obtain ⟨header, hHeader, hId⟩ := hHolds.header
  have hLt := h.reached header (mem_headersOf.mp hHeader).1 other hId
  cases hSame.symm.trans hOther
  omega

/-- Before a header is stored, no line names an identity of the writer. -/
theorem lineHeader_ne (h : t.ConsistentAt w .opening) {id : Nat} (hLow : w.low ≤ id)
    {line : Record} (hMem : line ∈ t.lines) :
    line.get? "header_id" ≠ some (.identifier id) := by
  intro hSame
  obtain ⟨kind, other, -, hOther, header, hHeader, hId⟩ := h.consistent.lines line hMem
  have hLt := h.reached header (mem_headersOf.mp hHeader).1 other hId
  cases hSame.symm.trans hOther
  omega

/-- The record of an attempt that is no success may be stored at any time. -/
theorem putOutcome (h : t.ConsistentAt w p) {o : Outcome} (hOther : o.status ≠ .success) :
    (t.putOutcome o).ConsistentAt w p where
  consistent := h.consistent.putOutcome fun hSuccess => absurd hSuccess hOther
  issued := h.issued
  reached := by
    match p, h.reached with
    | .opening, hReached => exact hReached
    | .spent, _ => trivial
    | .headed header count, ⟨id, hAwaits⟩ =>
      refine ⟨id, hAwaits.named, hAwaits.stored, hAwaits.holds.putOutcome o,
        fun other hMem hSuccess => ?_⟩
      rcases mem_put hMem with rfl | hOld
      · exact absurd hSuccess hOther
      · exact hAwaits.unclaimed other hOld hSuccess

/-- The record of a success may be stored once the tables hold what it counts. -/
theorem putSuccess (h : t.ConsistentAt w p) {o : Outcome} (hRecorded : p.RecordedBy o)
    (hKind : o.kindTag = some w.kind.tag) (hOwner : o.clientId = w.clientId) :
    (t.putOutcome o).ConsistentAt w .spent := by
  obtain ⟨header, count, rfl, hHeader, rfl⟩ := hRecorded
  obtain ⟨id, hAwaits⟩ := h.reached
  refine ⟨h.consistent.putOutcome fun _ => ?_, h.issued, trivial⟩
  refine ⟨w.kind, id, hKind, hHeader.trans hAwaits.named, ?_⟩
  rw [hOwner]
  exact hAwaits.holds

/-- A header under an identity of the writer is a document without lines. -/
theorem putHeader (h : t.ConsistentAt w .opening) {header : Record} {id : Nat}
    (hType : header.type = w.kind.headerType) (hId : header.id? = some id) (hLow : w.low ≤ id)
    (hHigh : id < w.high) (hOwner : header.get? "client_id" = w.clientId.map .whole) :
    (t.putHeader header).ConsistentAt w (.headed header 0) := by
  have hUnclaimed : ∀ o ∈ t.outcomes, o.status = .success → o.headerId ≠ some id :=
    fun o hMem hSuccess => h.headerId_ne hLow hMem hSuccess
  have hNoHeader : ∀ other ∈ t.headers, other.id? ≠ some id := fun other hMem hSame =>
    Nat.not_lt.mpr hLow (h.reached other hMem id hSame)
  have hHolds := Holds.of_putHeader hType hId hOwner hNoHeader fun _ hMem =>
    h.lineHeader_ne hLow hMem
  refine ⟨h.consistent.putHeader (hId ▸ hUnclaimed), fun other hMem n hn => ?_, id, hId,
    putHeader_mem_headersOf hType, hHolds, hUnclaimed⟩
  rcases mem_put hMem with rfl | hOld
  · cases hId.symm.trans hn
    exact hHigh
  · exact h.issued other hOld n hn

/-- Lines of the header that came back are lines of its document. -/
theorem addLines {header : Record} {count : Nat} (h : t.ConsistentAt w (.headed header count))
    {lines : List Record} (hLines : ∀ line ∈ lines, w.LineFor header line) :
    (t.addLines lines).ConsistentAt w (.headed header (count + lines.length)) := by
  obtain ⟨id, hAwaits⟩ := h.reached
  have hNamed : ∀ line ∈ lines, line.get? "header_id" = some (.identifier id) := by
    intro line hLine
    rw [(hLines line hLine).headerId, hAwaits.named]
    rfl
  refine ⟨h.consistent.addLines ?_ ?_, h.issued, id, hAwaits.named, hAwaits.stored, ?_,
    hAwaits.unclaimed⟩
  · intro line hLine
    exact ⟨w.kind, id, (hLines line hLine).type, hNamed line hLine, hAwaits.holds.header⟩
  · intro o hMem hSuccess line hLine hSame
    -- A success that counted other lines of this header would be out of date; there is none.
    rw [hNamed line hLine] at hSame
    obtain ⟨other, hOther, hValue⟩ := Option.map_eq_some_iff.mp hSame.symm
    cases hValue
    exact hAwaits.unclaimed o hMem hSuccess hOther
  · refine hAwaits.holds.addLines fun line hLine => ⟨(hLines line hLine).type, hNamed line hLine, ?_⟩
    have hOwner := hAwaits.holds.headerOwner header hAwaits.stored hAwaits.named
    have hClient : header.clientId? = w.clientId := by
      unfold Record.clientId?
      rw [hOwner]
      cases w.clientId <;> rfl
    rw [(hLines line hLine).owner, hClient]
    cases w.clientId <;> rfl

end ConsistentAt

end Tables

/-- A line is kept as a line of the same header. -/
theorem Writer.LineFor.kept {w : Writer} {header line kept : Record} (h : w.LineFor header line)
    (hKept : keptRecord line = .ok kept) : w.LineFor header kept := by
  have hVacant : ∀ name ∈ ["header_id", "client_id"], line.type.IsVacant name :=
    h.type ▸ w.kind.lineType_isVacant
  refine ⟨(Database.type_keptRecord hKept).trans h.type, ?_, ?_⟩
  · rw [Database.get?_keptRecord hKept (hVacant _ (by decide)), h.headerId]
    rw [h.headerId]
    cases header.id? <;> nofun
  · rw [Database.get?_keptRecord hKept (hVacant _ (by decide)), h.owner]
    rw [h.owner]
    cases w.clientId <|> header.clientId? <;> nofun

namespace Database

variable {db db' : Database} {w : Writer} {p : Progress}

/-- A header is kept with its identity and its owner. -/
theorem keptHeader {header kept : Record} {id : Nat} (hKept : keptRecord header = .ok kept)
    (hType : header.type = w.kind.headerType) (hId : header.get? "id" = some (.identifier id))
    (hOwner : header.get? "client_id" = w.clientId.map .whole) :
    kept.type = w.kind.headerType ∧ kept.id? = some id ∧
      kept.get? "client_id" = w.clientId.map .whole := by
  have hVacant : ∀ name ∈ ["id", "client_id"], header.type.IsVacant name :=
    hType ▸ w.kind.headerType_isVacant
  refine ⟨(type_keptRecord hKept).trans hType, Record.id?_eq_some.mpr ?_, ?_⟩
  · rw [get?_keptRecord hKept (hVacant _ (by decide)), hId]
    rw [hId]
    nofun
  · rw [get?_keptRecord hKept (hVacant _ (by decide)), hOwner]
    rw [hOwner]
    cases w.clientId <;> nofun

section Calls

theorem consistentAt_record {o : Outcome} {answer : Except String (Option Outcome)}
    (h : db.contents.ConsistentAt w p) (hOther : o.status ≠ .success)
    (hTakes : (repository.record o db).value = (answer, db')) :
    db'.contents.ConsistentAt w (p.after (.record o answer)) := by
  rw [Progress.after_record answer hOther]
  rcases (record_spec hTakes).1 with hSame | hPut
  · exact hSame ▸ h
  · exact hPut ▸ h.putOutcome hOther

theorem consistentAt_success {o : Outcome} {answer : Except String (Option Outcome)}
    (h : db.contents.ConsistentAt w p) (hRecorded : p.RecordedBy o)
    (hKind : o.kindTag = some w.kind.tag) (hOwner : o.clientId = w.clientId)
    (hTakes : (repository.record o db).value = (answer, db')) :
    db'.contents.ConsistentAt w (p.after (.record o answer)) := by
  by_cases hSuccess : o.status = .success
  · rw [hRecorded.after answer hSuccess]
    rcases (record_spec hTakes).1 with hSame | hPut
    · exact hSame ▸ h.spent
    · exact hPut ▸ h.putSuccess hRecorded hKind hOwner
  · exact consistentAt_record h hSuccess hTakes

theorem consistentAt_saveHeader {header : Record} {id : Nat}
    {answer : Except String (Option Record)} (h : db.contents.ConsistentAt w .opening)
    (hType : header.type = w.kind.headerType) (hId : header.get? "id" = some (.identifier id))
    (hLow : w.low ≤ id) (hHigh : id < w.high)
    (hOwner : header.get? "client_id" = w.clientId.map .whole)
    (hTakes : (repository.saveHeader header db).value = (answer, db')) :
    db'.contents.ConsistentAt w (Progress.opening.after (.saveHeader header answer)) := by
  rcases saveHeader_spec hTakes with ⟨hSame, hNone⟩ | ⟨kept, hKept, hPut, hSaved⟩
  · match answer, hNone with
    | .error _, _ => exact hSame ▸ h.spent
    | .ok none, _ => exact hSame ▸ h.spent
    | .ok (some saved), hNone => exact absurd rfl (hNone saved)
  · obtain ⟨hKeptType, hKeptId, hKeptOwner⟩ := keptHeader hKept hType hId hOwner
    have hHeaded := h.putHeader hKeptType hKeptId hLow hHigh hKeptOwner
    rw [← hPut] at hHeaded
    -- Even a call that fails may have stored the header: it can fail when the header is read back.
    match answer, hSaved with
    | .error _, _ => exact hHeaded.spent
    | .ok none, _ => exact hHeaded.spent
    | .ok (some saved), hSaved =>
      obtain rfl := hSaved saved rfl
      have hAfter : Progress.opening.after (.saveHeader header (.ok (some saved))) =
          .headed saved 0 := if_pos (by rw [hKeptId]; rfl)
      rw [hAfter]
      exact hHeaded

theorem consistentAt_saveLines {header : Record} {count : Nat} {lines : List Record}
    {answer : Except String Unit} (h : db.contents.ConsistentAt w (.headed header count))
    (hLines : ∀ line ∈ lines, w.LineFor header line)
    (hTakes : (repository.saveLines lines db).value = (answer, db')) :
    db'.contents.ConsistentAt w
      ((Progress.headed header count).after (.saveLines lines answer)) := by
  rcases saveLines_spec hTakes with ⟨hSame, hNil⟩ | ⟨kept, hKept, hAdded⟩
  · cases answer with
    | error _ => exact hSame ▸ h.spent
    | ok done =>
      rw [hNil rfl]
      exact hSame ▸ h
  · obtain ⟨hLength, hMember⟩ := mapM_eq_ok hKept
    have hKeptLines : ∀ line ∈ kept, w.LineFor header line := by
      intro line hLine
      obtain ⟨made, hMade, hLineKept⟩ := hMember line hLine
      exact (hLines made hMade).kept hLineKept
    have hLined := h.addLines hKeptLines
    rw [← hAdded, hLength] at hLined
    cases answer with
    | error _ => exact hLined.spent
    | ok done => exact hLined

end Calls

/-- One call of a writer, whatever comes of it, leaves the tables consistent. -/
theorem consistentAt_takes {e : Exchange} (h : db.contents.ConsistentAt w p) (hAllows : w.Allows p e)
    (hTakes : e.Takes repository db db') : db'.contents.ConsistentAt w (p.after e) := by
  cases hAllows with
  | rules answer =>
    rw [rules_spec hTakes]
    cases p <;> exact h
  | record answer hOther => exact consistentAt_record h hOther hTakes
  | success answer hRecorded hKind hOwner =>
    exact consistentAt_success h hRecorded hKind hOwner hTakes
  | saveHeader answer hType hId hLow hHigh hOwner =>
    exact consistentAt_saveHeader h hType hId hLow hHigh hOwner hTakes
  | saveLines answer hLines => exact consistentAt_saveLines h hLines hTakes

/-- All calls of a writer, whatever comes of each, leave the tables consistent. -/
theorem consistentAt_leads {es : List Exchange} (h : db.contents.ConsistentAt w p)
    (hAllows : w.AllowsAll p es) (hLeads : repository.Leads es db db') :
    db'.contents.ConsistentAt w (p.afterAll es) := by
  induction hLeads generalizing p with
  | nil db => exact h
  | cons hTakes _ ih => exact ih (consistentAt_takes h hAllows.1 hTakes) hAllows.2

end Database

/-- A document as it arrives, with the settings in force at that moment. -/
structure Arrival where
  settings : MappingSettings := {}
  now : Calendar.DateTime := default
  delivery : Service.Delivery

namespace Arrival

/-- The exchanges with a database over an arrival. -/
def exchanges (x : Arrival) (db : Database) : List Exchange :=
  Service.exchanges Database.repository x.settings x.now x.delivery db db.nextId

/-- The database once an arrival has been processed. -/
def received (x : Arrival) (db : Database) : Database :=
  (Database.process x.settings x.now x.delivery db).store

/-- What the service answers to an arrival. -/
def reply (x : Arrival) (db : Database) : Service.Reply Database :=
  Service.process Database.repository x.settings x.now x.delivery db db.nextId

theorem contents_received (x : Arrival) (db : Database) :
    (x.received db).contents = (x.reply db).store.contents := rfl

theorem exchanges_lead (x : Arrival) (db : Database) :
    Database.repository.Leads (x.exchanges db) db (x.reply db).store :=
  Service.exchanges_lead _ _ _ _ _ _

theorem exchanges_allowed (x : Arrival) (db : Database) :
    db.nextId ≤ (x.received db).nextId ∧ ∃ kind clientId,
      (⟨kind, clientId, db.nextId, (x.received db).nextId⟩ : Writer).AllowsAll .opening
        (x.exchanges db) :=
  Service.exchanges_allowed Database.repository_keepsOutcomes _ _ _ _ _

end Arrival

namespace Database

/-- The database once arrivals have been processed, one after the other. -/
def afterAll (db : Database) (xs : List Arrival) : Database :=
  xs.foldl (fun db x => x.received db) db

/-- A consistent database that has given out the identities of all its headers. -/
structure Sound (db : Database) : Prop where
  consistent : db.contents.Consistent
  issued : ∀ header ∈ db.contents.headers, ∀ id, header.id? = some id → id < db.nextId

namespace Sound

variable {db : Database}

/-- A writer may begin with a sound database. -/
theorem consistentAt (h : db.Sound) (kind : DocumentKind) (clientId : Option Int) {high : Nat}
    (hHigh : db.nextId ≤ high) :
    db.contents.ConsistentAt ⟨kind, clientId, db.nextId, high⟩ .opening where
  consistent := h.consistent
  issued := fun header hMem id hId => Nat.lt_of_lt_of_le (h.issued header hMem id hId) hHigh
  -- The writer gives identities from the next one on, so those given out lie below its own.
  reached := h.issued

/-- After every call over an arrival, the tables are consistent. -/
theorem consistent_leads (h : db.Sound) (x : Arrival) {es later : List Exchange}
    (hSplit : x.exchanges db = es ++ later) :
    ∃ between, repository.Leads es db between ∧
      repository.Leads later between (x.reply db).store ∧ between.contents.Consistent := by
  obtain ⟨hNext, kind, clientId, hAllowed⟩ := x.exchanges_allowed db
  have hLeads := x.exchanges_lead db
  rw [hSplit] at hAllowed hLeads
  obtain ⟨between, hBefore, hAfter⟩ := hLeads.split
  have hReached := consistentAt_leads (h.consistentAt kind clientId hNext)
    (Writer.allowsAll_append.mp hAllowed).1 hBefore
  exact ⟨between, hBefore, hAfter, hReached.consistent⟩

/-- An arrival leaves a sound database sound. -/
theorem received (h : db.Sound) (x : Arrival) : (x.received db).Sound := by
  obtain ⟨hNext, kind, clientId, hAllowed⟩ := x.exchanges_allowed db
  have hEnd := consistentAt_leads (h.consistentAt kind clientId hNext) hAllowed
    (x.exchanges_lead db)
  constructor
  · rw [x.contents_received]
    exact hEnd.consistent
  · rw [x.contents_received]
    exact hEnd.issued

theorem afterAll (h : db.Sound) (xs : List Arrival) : (db.afterAll xs).Sound := by
  induction xs generalizing db with
  | nil => exact h
  | cons x xs ih => exact ih (h.received x)

end Sound

/-- Whatever arrives, and whichever statements fail, the tables of a database that was blank are
consistent after every arrival, and after every call over the next one. -/
theorem afterAll_consistent (db : Database)
    (hBlank : db.contents.outcomes = [] ∧ db.contents.headers = [] ∧ db.contents.lines = [])
    (xs : List Arrival) :
    (db.afterAll xs).contents.Consistent ∧
      ∀ (x : Arrival) (es later : List Exchange), x.exchanges (db.afterAll xs) = es ++ later →
        ∃ between, repository.Leads es (db.afterAll xs) between ∧
          repository.Leads later between (x.reply (db.afterAll xs)).store ∧
          between.contents.Consistent := by
  obtain ⟨hOutcomes, hHeaders, hLines⟩ := hBlank
  have hSound : db.Sound := by
    refine ⟨⟨fun o hMem => ?_, fun line hMem => ?_⟩, fun header hMem => ?_⟩
    · rw [hOutcomes] at hMem
      cases hMem
    · rw [hLines] at hMem
      cases hMem
    · rw [hHeaders] at hMem
      cases hMem
  have hAfter := hSound.afterAll xs
  exact ⟨hAfter.consistent, fun x es later hSplit => hAfter.consistent_leads x hSplit⟩

/-- A database whose twelfth statement fails. -/
def failingOnce : Database where
  tables := some { rules := [⟨1, none, none, Attempt.quantityRule⟩] }
  outage := fun n => if n = 11 then some "(sqlite3.OperationalError) disk I/O error" else none

/-- An order of one item. -/
def orderArrival : Arrival where
  delivery := {
    source := .ofText "<Order><Item><Qty>2</Qty></Item></Order>"
    clientId := some 5 }

/-- The lines of the first order are lost when they are to be committed. Its header stays, without a
success on record; the second order is stored as a whole. -/
theorem afterAll_consistent_failingOnce :
    let xs := [orderArrival, orderArrival]
    let after := failingOnce.afterAll xs
    (failingOnce.contents.outcomes = [] ∧ failingOnce.contents.headers = [] ∧
      failingOnce.contents.lines = []) ∧
    (after.contents.Consistent ∧
      ∀ (x : Arrival) (es later : List Exchange), x.exchanges after = es ++ later →
        ∃ between, repository.Leads es after between ∧
          repository.Leads later between (x.reply after).store ∧ between.contents.Consistent) ∧
    after.contents.outcomes.map (fun o => (o.status, o.headerId, o.lineCount)) =
      [(.error, some 2, 0), (.success, some 5, 1)] ∧
    after.contents.headers.map Record.id? = [some 2, some 5] := by
  intro xs after
  have hBlank : failingOnce.contents.outcomes = [] ∧ failingOnce.contents.headers = [] ∧
      failingOnce.contents.lines = [] := ⟨rfl, rfl, rfl⟩
  exact ⟨hBlank, afterAll_consistent failingOnce hBlank xs, by decide +kernel, by decide +kernel⟩

end Database

end Intake
