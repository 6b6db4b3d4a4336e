import Intake.Json.Basic
import Intake.Number.Arithmetic
import Intake.Number.Reader

/-! Schemas of settings and configurations. A schema lists slots, each with a name, the shape of its
value, and a value for the case that none is given. Values are read generously: a number may come as
a text or as a truth value, and a truth value as a word. -/

namespace Intake.Schema

/-- What is wrong with a value. -/
inductive Complaint where
  | missing | notText | tooLong | notWhole | unreadableWhole | hugeWhole | fractional | infinite
  | notTruth | unreadableTruth | notList | notObject | notSection | unusable
  deriving DecidableEq, Repr

def Complaint.tag : Complaint → String
  | missing => "missing"
  | notText => "string_type"
  | tooLong => "string_too_long"
  | notWhole => "int_type"
  | unreadableWhole => "int_parsing"
  | hugeWhole => "int_parsing_size"
  | fractional => "int_from_float"
  | infinite => "finite_number"
  | notTruth => "bool_type"
  | unreadableTruth => "bool_parsing"
  | notList => "list_type"
  | notObject => "model_attributes_type"
  | notSection => "model_type"
  | unusable => "value_error"

/-- A complaint and the place it is about: names of slots and positions in lists. -/
structure Violation where
  place : List String
  complaint : Complaint
  deriving DecidableEq, Repr

/-- The violation seen from around the slot it is in. -/
def Violation.within (name : String) (v : Violation) : Violation :=
  { v with place := name :: v.place }

/-- The shape of a value. -/
inductive Shape where
  /-- A text, of at most so many characters. -/
  | text (limit : Option Nat)
  | whole
  | truth
  | texts
  deriving DecidableEq, Repr

/-- A slot. Without a default a value must be given. -/
structure Slot where
  name : String
  shape : Shape
  isNullable : Bool := false
  default : Option Json := none

/-! ### Whole numbers -/

/-- The most digits that a number may have. -/
def digitLimit : Nat := 4300

/-- Reads a number that is written as plainly as can be: an optional minus sign and digits, of which
the first is a zero only if it is the last one too. -/
def plainWhole? (s : List Char) : Option (Except Complaint Int) :=
  let (sign, digits) : Int × List Char := match s with
    | '-' :: rest => (-1, rest)
    | _ => (1, s)
  let isPlain := !digits.isEmpty && digits.all Char.isDigit &&
    (digits.head? != some '0' || digits.length == 1)
  if !isPlain then none
  else if digitLimit < digits.length then some (.error .hugeWhole)
  else some (.ok (sign * digits.foldl (fun (n : Int) c => 10 * n + (c.toNat - 48)) 0))

/-- The text without zeros in front of its first other digit, underscores among them passed over;
one zero is kept in front of a point and at the end. -/
def withoutLeadingZeros? (s : List Char) : Option (List Char) :=
  match s with
  | '0' :: rest =>
    match rest.dropWhile fun c => c == '0' || c == '_' with
    | [] => some [s.getLast?.getD '0']
    | '.' :: more =>
      let passed := s.take (s.length - (more.length + 1))
      some (passed.getLast?.getD '0' :: '.' :: more)
    | c :: more => if c.isDigit then some (c :: more) else none
  | c :: _ => if c.isDigit || c == '-' then some s else none
  | [] => none

/-- The text without a point that only zeros follow. -/
def withoutZeroFraction (s : List Char) : List Char :=
  match s.dropWhile (· != '.') with
  | _ :: fraction => if fraction.all (· == '0') then s.takeWhile (· != '.') else s
  | [] => s

/-- The text without single underscores between other characters. -/
def withoutUnderscores (s : List Char) : List Char :=
  let hasTwo := (s.zip (s.drop 1)).any fun (a, b) => a == '_' && b == '_'
  if s.head? == some '_' || s.getLast? == some '_' || hasTwo then s else s.filter (· != '_')

/-- A written number, tidied up. -/
def tidied? (s : List Char) : Option (List Char) :=
  let s := Text.dropEnd Number.isSpacing (s.dropWhile Number.isSpacing)
  let unsigned := match s with
    | '+' :: '-' :: _ => none
    | '+' :: rest => some rest
    | _ => some s
  (unsigned.bind withoutLeadingZeros?).map fun s => withoutUnderscores (withoutZeroFraction s)

/-- The whole number that a text stands for. -/
def wholeOfText (s : List Char) : Except Complaint Int :=
  match plainWhole? s with
  | some result => result
  | none => ((tidied? s).bind plainWhole?).getD (.error .unreadableWhole)

/-- Whether a whole number can be taken from a number that need not be whole. -/
def isModest (n : Int) : Bool := -(Number.twoTo 63 : Int) < n && n < Number.twoTo 63

/-- The whole number that a number stands for if it has no fraction. -/
def wholeOfReal (x : Number.Double) : Except Complaint Int :=
  match x with
  | .nan | .infinite _ => .error .infinite
  | x =>
    match x.whole? with
    | none => .error .fractional
    | some n => if isModest n then .ok n else .error .hugeWhole

/-- The whole number that a value stands for. -/
def readWhole : Json → Except Complaint Int
  | .whole n => .ok n
  | .truth b => .ok (if b then 1 else 0)
  | .real x => wholeOfReal x
  | .text s => wholeOfText s.toList
  | _ => .error .notWhole

/-! ### Truth values -/

/-- Words for true. -/
def trueWords : List String := ["1", "t", "y", "on", "yes", "true"]

/-- Words for false. -/
def falseWords : List String := ["0", "f", "n", "no", "off", "false"]

/-- The truth value that a word stands for, in capital or small letters. -/
def truthOfText (s : String) : Except Complaint Bool :=
  let word := String.ofList (s.toList.map Char.toLower)
  if trueWords.contains word then .ok true
  else if falseWords.contains word then .ok false
  else .error .unreadableTruth

def truthOfWhole (n : Int) : Except Complaint Bool :=
  if n = 0 then .ok false
  else if n = 1 then .ok true
  else if -(Number.twoTo 63 : Int) ≤ n && n < Number.twoTo 63 then .error .unreadableTruth
  else .error .notTruth

def readTruth : Json → Except Complaint Bool
  | .truth b => .ok b
  | .text s => truthOfText s
  | .whole n => truthOfWhole n
  | .real x =>
    match wholeOfReal x with
    | .ok n => truthOfWhole n
    | .error _ => .error .notTruth
  | _ => .error .notTruth

/-! ### Texts -/

def readText (limit : Option Nat) : Json → Except Complaint String
  | .text s =>
    match limit with
    | some n => if n < s.length then .error .tooLong else .ok s
    | none => .ok s
  | _ => .error .notText

/-- The violations in a list of texts. -/
def textsViolations (items : List Json) : List Violation :=
  items.zipIdx.filterMap fun (item, i) =>
    match readText none item with
    | .ok _ => none
    | .error complaint => some ⟨[toString i], complaint⟩

/-! ### Slots -/

/-- A complaint about a value as a whole. -/
def complain {α : Type} : Except Complaint α → Except (List Violation) α
  | .ok a => .ok a
  | .error complaint => .error [⟨[], complaint⟩]

/-- The value of a shape that a value stands for. -/
def Shape.read (value : Json) : Shape → Except (List Violation) Json
  | text limit => complain ((readText limit value).map Json.text)
  | whole => complain ((readWhole value).map Json.whole)
  | truth => complain ((readTruth value).map Json.truth)
  | texts =>
    match value with
    | .list items =>
      match textsViolations items with
      | [] => .ok value
      | vs => .error vs
    | _ => .error [⟨[], .notList⟩]

/-- The value of a slot among given members. -/
def Slot.read (members : List (String × Json)) (slot : Slot) : Except (List Violation) Json :=
  match members.lookup slot.name with
  | none =>
    match slot.default with
    | some value => .ok value
    | none => .error [⟨[slot.name], .missing⟩]
  | some value =>
    match value, slot.isNullable with
    | .null, true => .ok .null
    | value, _ =>
      match slot.shape.read value with
      | .ok value => .ok value
      | .error vs => .error (vs.map (Violation.within slot.name))

/-- The values of all slots among given members, or all violations. Other members are passed over.
-/
def readSlots (slots : List Slot) (members : List (String × Json)) :
    Except (List Violation) (List (String × Json)) :=
  let results := slots.map fun slot => (slot.name, slot.read members)
  let violations := results.flatMap fun (_, result) =>
    match result with
    | .ok _ => []
    | .error vs => vs
  if violations.isEmpty then
    .ok (results.filterMap fun (name, result) => result.toOption.map fun value => (name, value))
  else .error violations

/-! ### Values that have been read -/

def textAt? (members : List (String × Json)) (name : String) : Option String :=
  match members.lookup name with
  | some (.text s) => some s
  | _ => none

def textAt (members : List (String × Json)) (name : String) : String :=
  (textAt? members name).getD ""

def wholeAt? (members : List (String × Json)) (name : String) : Option Int :=
  match members.lookup name with
  | some (.whole n) => some n
  | _ => none

def wholeAt (members : List (String × Json)) (name : String) : Int :=
  (wholeAt? members name).getD 0

def truthAt (members : List (String × Json)) (name : String) : Bool :=
  match members.lookup name with
  | some (.truth b) => b
  | _ => false

def textsAt (members : List (String × Json)) (name : String) : List String :=
  match members.lookup name with
  | some (.list items) => items.filterMap fun item =>
    match item with
    | .text s => some s
    | _ => none
  | _ => []

end Intake.Schema
