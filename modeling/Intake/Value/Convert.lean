import Intake.Chain.Run

/-! The value of a declared type that a text stands for, and the value that a chain makes of a raw
text. A whole number is rounded from a decimal, a half away from zero. -/

namespace Intake.Chain

/-- Words for true. -/
def trueWords : List String := ["true", "1", "yes", "y", "on"]

/-- Words for false. -/
def falseWords : List String := ["false", "0", "no", "n", "off"]

def truth? (text : String) : Option Bool :=
  let word := String.ofList (Text.lowered (Text.trimmed text.toList))
  if trueWords.contains word then some true
  else if falseWords.contains word then some false
  else none

/-- The value of a hexadecimal digit; decimal digits may be of any script. -/
def hexadecimal? (c : Char) : Option Nat :=
  if 'a' ≤ c && c ≤ 'f' then some (c.toNat - 87)
  else if 'A' ≤ c && c ≤ 'F' then some (c.toNat - 55)
  else Text.digitValue? c

/-- The text without a mark of hexadecimal notation in front. -/
def withoutHexMark : List Char → List Char
  | '0' :: x :: '_' :: rest => if x = 'x' || x = 'X' then rest else '0' :: x :: '_' :: rest
  | '0' :: x :: rest => if x = 'x' || x = 'X' then rest else '0' :: x :: rest
  | s => s

/-- The number that hexadecimal digits denote, single underscores between them passed over. -/
def hexadecimalNumber? (s : List Char) : Option Nat :=
  let (_, body) := Number.signed (Text.dropEnd Number.isSpacing (s.dropWhile Number.isSpacing))
  let groups := Text.pieces '_' (withoutHexMark body)
  if groups.any List.isEmpty then none
  else (groups.flatten.mapM hexadecimal?).map fun ds => ds.foldl (fun n d => 16 * n + d) 0

/-- The identifier that a text stands for: 32 hexadecimal digits, with dashes anywhere among them,
in braces and behind `urn:uuid:` if so written. -/
def identifier (text : String) : Except Mismatch Nat :=
  let isBrace (c : Char) : Bool := c == '\x7b' || c == '\x7d'
  let s := Text.replaced "uuid:".toList [] (Text.replaced "urn:".toList [] text.toList)
  let digits := (Text.dropEnd isBrace (s.dropWhile isBrace)).filter (· != '-')
  if digits.length != 32 then .error .badIdentifier
  else
    match hexadecimalNumber? digits with
    | some n => .ok n
    | none => .error (.badHexadecimal (String.ofList digits))

/-- A reading that must be there. -/
def orMismatch {α : Type} (expected : Expectation) :
    Except Fault (Option α) → Except Fault (Except Mismatch α)
  | .ok (some a) => .ok (.ok a)
  | .ok none => .ok (.error (.not expected))
  | .error fault => .error fault

/-- The value of a type that a text stands for. -/
def valueOf (today : Calendar.Date) (text : String) :
    ValueType → Except Fault (Except Mismatch Value)
  | .text | .anything | .unset => .ok (.ok (.text text))
  | .truth =>
    match truth? text with
    | some b => .ok (.ok (.truth b))
    | none => .ok (.error (.not .truth))
  | .whole =>
    match Number.amount? text.toList with
    | none => .ok (.error (.not .number))
    | some d => (d.round 0).map fun rounded => .ok (.whole rounded.truncated)
  | .decimal =>
    match Number.amount? text.toList with
    | none => .ok (.error (.not .number))
    | some d => .ok (.ok (.decimal d))
  | .double =>
    match Number.amount? text.toList with
    | none => .ok (.error (.not .number))
    | some d => .ok (.ok (.double d.toDouble))
  | .dateTime => do
    return (← orMismatch .dateTime (Calendar.readDateTime today text)).map Value.dateTime
  | .date => do
    return (← orMismatch .date (Calendar.readDateTime today text)).map fun t => .date t.date
  | .clock => do
    return (← orMismatch .time (Calendar.readClock today text)).map Value.clock
  | .identifier => .ok ((identifier text).map Value.identifier)
  | .documentKind =>
    match DocumentKind.all.find? (·.tag == text) with
    | some k => .ok (.ok (.documentKind k))
    | none => .ok (.error (.noMember text .documentKind))
  | .discovery =>
    match Discovery.all.find? (·.tag == text) with
    | some d => .ok (.ok (.discovery d))
    | none => .ok (.error (.noMember text .discovery))
  | .bytes => .ok (.error .bytesWithoutEncoding)
  | .nothing => .ok (.error .notConstructible)

/-- The value that a text stands for. A failure mentions `raw` and `operation`. -/
def convert (today : Calendar.Date) (text : String) (type : FieldType) (raw : String)
    (operation : Option String) : Except Failure Value :=
  let type := type.present
  let found := match type with
    | .single type => valueOf today text type
    | .choice _ => .ok (.error .ambiguous)
  match found with
  | .ok (.ok value) => .ok value
  | .ok (.error mismatch) =>
    .error (.refused ⟨.inconvertible text type mismatch, raw, operation, some type⟩)
  | .error fault => .error (.fault fault)

/-- A failure that mentions the type that the value was to have. -/
def Failure.withType (type : FieldType) : Failure → Failure
  | .refused r => .refused { r with type := some type }
  | .fault f => .fault f

/-- The value that a chain makes of a raw text; none of a text that is blank. -/
def transform (c : Context) (raw : String) (chain : Option String) (type : FieldType) :
    Except Failure (Option Value) :=
  if Text.isBlankText raw then .ok none
  else
    let type := type.present
    match apply c raw chain with
    | .error failure => .error (failure.withType type)
    | .ok text =>
      let operation := (steps chain).getLast?.map Step.name
      (convert c.today text type raw operation).map some

end Intake.Chain
