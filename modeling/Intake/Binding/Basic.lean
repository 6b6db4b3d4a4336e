import Intake.Chain.Error
import Intake.Log.Basic
import Intake.Query.Basic
import Intake.Record.Basic
import Intake.Record.Type
import Intake.Rule
import Intake.Value.Convert

/-! Binding a rule to a record: the rule's field takes the value that the rule's chain makes of a
raw text. A record that a rule is not bound to stays as it is; why it is not bound is put into
words. -/

namespace Intake.Binding

/-- What went wrong. -/
inductive Cause where
  | unknownField
  | missingValue
  | unusable (refusal : Chain.Refusal)
  | unassignable (objection : Objection)
  | unreachable (refusal : Query.Refusal)
  deriving DecidableEq, Repr

/-- The failure of a rule: the name of the record's type, the field, the rule and the cause. -/
structure Refusal where
  recordType : String
  field : String
  rule : Rule
  cause : Cause
  deriving DecidableEq, Repr

def Refusal.message (r : Refusal) : String :=
  match r.cause with
  | .unknownField => r.recordType ++ " has no field '" ++ r.rule.targetField ++ "'"
  | .missingValue =>
    "Required field '" ++ r.rule.targetField ++ "' has no value at '" ++
      shownText r.rule.sourcePath ++ "'"
  | .unusable refusal => "Field '" ++ r.rule.targetField ++ "': " ++ refusal.message
  | .unassignable objection =>
    "Cannot assign field '" ++ r.rule.targetField ++ "': " ++ objection.text
  | .unreachable refusal => refusal.message

/-- Why binding ends: a rule is refused, the fields of the record cannot be told apart, or there is
a fault beneath. -/
inductive Failure where
  | refused (refusal : Refusal)
  | clash (clash : Clash)
  | fault (fault : Fault)
  deriving DecidableEq, Repr

def Failure.message : Failure → String
  | refused r => r.message
  | clash c => c.message
  | fault f => f.message

/-- The raw text that a rule works on: the one it is given or else its default, unless both are
blank. -/
def rawText (rule : Rule) (raw : Option String) : Option String :=
  let isThere (s : Option String) : Bool := s.any fun s => !Text.isBlankText s
  if isThere raw then raw else if isThere rule.defaultValue then rule.defaultValue else none

/-- The entries that a failed transformation leaves: the text in which a date or time was looked for
in vain. -/
def noteUnreadable : Chain.Failure → Logged Unit
  | .refused r =>
    match r.cause.unreadableMoment with
    | some text => Logged.note .dates .debug ("Unparseable date value: " ++ Text.quote text)
    | none => pure ()
  | .fault _ => pure ()

/-- Gives a field a value, unless it objects. -/
def assign (record : Record) (field : Field) (value : Value) : Except Objection Record :=
  match field.objections.lookup value with
  | some objection => .error objection
  | none => .ok (record.set field.name value)

/-- Makes a value of a raw text and gives it to a field. -/
def fill (c : Chain.Context) (record : Record) (rule : Rule) (field : Field) (raw : String) :
    Logged (Except Failure Record) :=
  let refused (cause : Cause) : Failure := .refused ⟨record.type.name, field.name, rule, cause⟩
  match Chain.transform c raw rule.transformation field.type with
  | .error failure => do
    noteUnreadable failure
    match failure with
    | .refused refusal => return .error (refused (.unusable refusal))
    | .fault fault => return .error (.fault fault)
  | .ok none => pure (.ok record)
  | .ok (some value) =>
    match assign record field value with
    | .error ⟨.breakdown, text⟩ => pure (.error (.fault (.missingKey text)))
    | .error objection => pure (.error (refused (.unassignable objection)))
    | .ok record => do
      Logged.note .binding .debug
        ("Bound " ++ record.type.name ++ "." ++ field.name ++ " from rule " ++ rule.name)
      return .ok record

/-- Binds a rule to a record; `raw` is the text that was found for it. There is no new record if
there is nothing to bind. -/
def bind (c : Chain.Context) (record : Record) (rule : Rule) (raw : Option String) :
    Logged (Except Failure (Option Record)) :=
  let refused (field : String) (cause : Cause) : Failure :=
    .refused ⟨record.type.name, field, rule, cause⟩
  match record.type.targets with
  | .error clash => pure (.error (.clash clash))
  | .ok fields =>
    match RecordType.fieldAmong fields rule.targetField with
    | none => do
      Logged.note .binding .debug
        ("Known " ++ record.type.name ++ " fields: " ++ Text.quoteList (fields.map Field.name))
      return .error (refused rule.targetField .unknownField)
    | some field =>
      match rawText rule raw with
      | none =>
        return if rule.isRequired then .error (refused field.name .missingValue) else .ok none
      | some raw => do return (← fill c record rule field raw).map some

end Intake.Binding
