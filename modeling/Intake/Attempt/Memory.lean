import Intake.Attempt.Basic

/-! A store in memory. It keeps what it receives, and every call may meet trouble. -/

namespace Intake

/-- What befalls a call of a store. -/
inductive Trouble where
  /-- The call breaks down, and nothing is kept. -/
  | breakdown (reason : String)
  /-- The call answers nothing. A header is not kept then, but the record of an attempt is. -/
  | noAnswer
  /-- A header comes back without its identity, and is not kept. -/
  | noIdentity
  deriving DecidableEq, Repr

/-- The troubles of a store: what befalls a call by its kind, its number among the calls of that
kind, counted from 1, and the status or table that it is about. -/
abbrev Troubles := Call → Nat → Option String → Option Trouble

/-- What a store in memory holds: the rules of feeds, the calls it has answered, and what it has
received. -/
structure Memory where
  rules : List (Option Nat × Rule) := []
  calls : List Call := []
  headers : List Record := []
  batches : List (List Record) := []
  outcomes : List Outcome := []
  deriving Repr

namespace Memory

/-- Counts a call, and says what befalls it. -/
def meet (troubles : Troubles) (call : Call) (about : Option String) (m : Memory) :
    Option Trouble × Memory :=
  let calls := m.calls ++ [call]
  (troubles call (calls.count call) about, { m with calls })

/-- The rules of a feed for the records of a table, in the order in which they were given. -/
def rulesFor (m : Memory) (interfaceId : Option Nat) (table : String) : List Rule :=
  (m.rules.filter fun r =>
    r.1 == interfaceId && Text.upper r.2.tableName == Text.upper table).map Prod.snd

/-- The store in memory. -/
def repository (troubles : Troubles) : Repository Memory where
  record o m :=
    match m.meet troubles .record (some o.status.tag) with
    | (some (.breakdown reason), m) => pure (.error reason, m)
    | (trouble, m) =>
      let answer := if trouble = some .noAnswer then none else some o
      pure (.ok answer, { m with outcomes := m.outcomes ++ [o] })
  rules interfaceId table m :=
    match m.meet troubles .rules (some table) with
    | (some (.breakdown reason), m) => pure (.error reason, m)
    | (_, m) => pure (.ok (some (m.rulesFor interfaceId table)), m)
  saveHeader header m :=
    match m.meet troubles .saveHeader none with
    | (some (.breakdown reason), m) => pure (.error reason, m)
    | (some .noAnswer, m) => pure (.ok none, m)
    | (some .noIdentity, m) => pure (.ok (some header.anonymous), m)
    | (none, m) => pure (.ok (some header), { m with headers := m.headers ++ [header] })
  saveLines lines m :=
    match m.meet troubles .saveLines none with
    | (some (.breakdown reason), m) => pure (.error reason, m)
    | (_, m) => pure (.ok (), { m with batches := m.batches ++ [lines] })

end Memory

end Intake
