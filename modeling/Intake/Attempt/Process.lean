import Intake.Attempt.Basic

/-! Processing a document: its attempt is recorded, the header and the lines are mapped and stored,
and the attempt is recorded again with what came of it. Whatever goes wrong on the way ends up in
the record; nothing is left to the caller to handle. -/

namespace Intake.Attempt

variable {σ : Type}

/-- The state before anything has happened. -/
def start (t : Task) (store : σ) (nextId : Nat) (log : List Log.Entry) : Attempt σ where
  outcome := t.outcome nextId
  trail := ⟨t.settings.trailLength, []⟩
  store := store
  nextId := nextId + 1
  log := log

def note (level : Log.Level) (message : String) (fields : List (String × Json) := []) :
    Step σ Unit :=
  modify fun a => { a with log := a.log ++ [⟨.attempts, level, message, fields⟩] }

/-- Takes over the entries of a computation. -/
def logged {α : Type} (x : Logged α) : Step σ α := do
  modify fun a => { a with log := a.log ++ x.log }
  return x.value

/-- What entries call the attempt. -/
def label (a : Attempt σ) : String :=
  match a.outcome.fileName with
  | some name => if name.isEmpty then identifierText a.outcome.id else name
  | none => identifierText a.outcome.id

/-- Moves on to a stage. -/
def advance (next : Stage) : Step σ Unit := do
  let a ← get
  note .debug (a.label ++ ": " ++ a.stage.tag ++ " -> " ++ next.tag)
  modify fun a => { a with past := a.past ++ [a.stage], stage := next }

/-- A call of the store. -/
def call {α : Type} (name : Call) (f : σ → Logged (Except String α × σ)) : Step σ α := do
  let a ← get
  match ← logged (f a.store) with
  | (.error reason, store) =>
    modify fun a => { a with store }
    throw (.store name reason)
  | (.ok value, store) =>
    modify fun a => { a with store }
    return value

def record (repo : Repository σ) : Step σ Unit := do
  let a ← get
  let recorded ← call .record (repo.record a.outcome)
  modify fun a => { a with outcome := recorded.getD a.outcome }

/-- The plan by which the document is mapped. -/
def resolve (repo : Repository σ) (t : Task) : Step σ Plan := do
  let headerRules ← call .rules (repo.rules t.interfaceId t.kind.headerType.table)
  let lineRules ← call .rules (repo.rules t.interfaceId t.kind.lineType.table)
  match ← logged (Plan.ofAnswers headerRules lineRules) with
  | .error fault => throw (.fault fault)
  | .ok plan =>
    note .debug
      ("Resolved " ++ toString plan.headerRules.length ++ " header rules and " ++
        toString plan.lineRuleCount ++ " line rules in " ++ toString plan.groups.length ++
        " groups")
    return plan

def bindHeader (t : Task) (rules : List Rule) : Step σ Record := do
  let a ← get
  let header := Record.freshHeader t.settings t.now t.kind a.nextId t.clientId
  let (result, trail) ←
    logged (Mapping.bindHeader t.scene t.checks t.start a.trail header rules)
  modify fun a => { a with trail, nextId := a.nextId + 1 }
  match result with
  | .error failure => throw (.ofHeader failure)
  | .ok header => return header

/-- Stores the header; it must come back with an identity. -/
def saveHeader (repo : Repository σ) (header : Record) : Step σ Record := do
  match ← call .saveHeader (repo.saveHeader header) with
  | none => throw .noIdentity
  | some header =>
    match header.id? with
    | none => throw .noIdentity
    | some id =>
      modify fun a => { a with outcome := { a.outcome with headerId := some id } }
      note .debug ("Persisted " ++ header.type.name ++ " " ++ identifierText id)
      return header

/-- Maps the lines; it will not do if there are some and all of them fail. -/
def bindLines (t : Task) (header : Record) (groups : List LineGroup) : Step σ (List Record) := do
  let a ← get
  let fresh (id number : Nat) : Record :=
    Record.freshLine t.settings t.now t.kind id header number t.clientId
  let (result, tally) ←
    logged (Mapping.bindGroups t.scene t.checks t.start fresh
      { trail := a.trail, nextId := a.nextId } groups)
  modify fun a =>
    { a with trail := tally.trail, nextId := tally.nextId, discovery := tally.discovery }
  match result with
  | .error failure => throw (.ofBinding failure)
  | .ok () =>
    if tally.lines.isEmpty && tally.failed != 0 then throw (.noLines tally.failed)
    return tally.lines

def saveLines (repo : Repository σ) (t : Task) (lines : List Record) : Step σ Unit := do
  if lines.isEmpty then
    let a ← get
    note .info
      ("No lines to persist for " ++ t.kind.tag ++ " header " ++
        shownText (a.outcome.headerId.map identifierText))
  else
    call .saveLines (repo.saveLines lines)
    modify fun a => { a with outcome := { a.outcome with lineCount := lines.length } }

/-- Maps the document and stores what comes of it. -/
def map (repo : Repository σ) (t : Task) : Step σ Unit := do
  record repo
  let plan ← resolve repo t
  let header ← bindHeader t plan.headerRules
  advance .headerBound
  let header ← saveHeader repo header
  advance .headerSaved
  let lines ← bindLines t header plan.groups
  advance .linesBound
  saveLines repo t lines
  advance .linesSaved

/-- Sets the status together with all that is known at the end. -/
def settle (t : Task) (status : Status) (a : Attempt σ) : Attempt σ :=
  { a with outcome := { a.outcome with
      status
      message := a.trail.render
      discovery := a.discovery
      processedAt := some t.now } }

/-- Records what came of the attempt. If that fails, the attempt has failed. -/
def finish (repo : Repository σ) (t : Task) (status : Status) : Step σ Unit := do
  modify (settle t status)
  let a ← get
  tryCatch (record repo) fun abort => do
    note .error
      ("Could not record " ++ status.tag ++ " result " ++ identifierText a.outcome.id ++ ": " ++
        abort.message)
    modify fun a => { a with trail := a.trail.add abort.message }
    advance .failed
    modify fun a =>
      { a with outcome := { a.outcome with status := .error, message := a.trail.render } }

def giveUp (repo : Repository σ) (t : Task) (abort : Abort) : Step σ Unit := do
  match abort with
  | .fault fault =>
    note .error ("Unexpected error processing " ++ t.kind.tag ++ " document: " ++ fault.message)
  | _ => pure ()
  modify fun a => { a with trail := a.trail.add abort.message }
  advance .failed
  note .error (t.kind.tag ++ " document failed: " ++ abort.message) t.logFields
  finish repo t .error

def complete (repo : Repository σ) (t : Task) : Step σ Unit := do
  let a ← get
  note .info
    (t.kind.tag ++ " document processed: " ++ toString a.outcome.lineCount ++ " lines")
    (t.logFields ++ [("header_id", Json.ofText? (a.outcome.headerId.map identifierText)),
      ("line_discovery", Json.ofText? (a.discovery.map Discovery.tag))])
  finish repo t .success

/-- The whole course of an attempt. -/
def course (repo : Repository σ) (t : Task) : Step σ Unit := do
  note .info
    ("Processing " ++ t.kind.tag ++ " document " ++ t.fileName.getD "" ++ " for interface " ++
      shownText (t.interface.map fun i => i.value.name)) t.logFields
  tryCatch (do map repo t; complete repo t) (giveUp repo t)

def run (repo : Repository σ) (t : Task) (store : σ) (nextId : Nat) (log : List Log.Entry) :
    Attempt σ :=
  ((course repo t).run.run (start t store nextId log)).2

end Intake.Attempt
