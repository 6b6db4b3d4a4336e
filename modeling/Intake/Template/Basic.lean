import Intake.Json.Basic
import Intake.Text.Quoted

/-! Templates: texts with directives that are filled with values. A directive opens with a percent
sign. Behind it stand, each of them optional, a name in parentheses, flags, a least width, a
precision behind a point, and a letter for its size; a letter that says how the value is written
closes it. A star in place of the width or the precision takes it from the values. -/

namespace Intake.Template

/-- Why a template cannot be filled. -/
inductive Refusal where
  | tooFewValues | tooManyValues
  | noMembers
  | missingMember (name : String)
  | openName | openDirective
  | unknownLetter (letter : Char) (place : Nat)
  | notReal (letter : Char) (shape : String)
  | notWhole (letter : Char) (shape : String)
  | notNumber (shape : String)
  | notCharacter | hugeCharacter
  | starNotWhole
  | infinite | undefined
  deriving DecidableEq, Repr

def Refusal.message : Refusal → String
  | tooFewValues => "not enough arguments for format string"
  | tooManyValues => "not all arguments converted during string formatting"
  | noMembers => "format requires a mapping"
  | missingMember name => Text.quote name
  | openName => "incomplete format key"
  | openDirective => "incomplete format"
  | unknownLetter letter place =>
    "unsupported format character '" ++ letter.toString ++ "' (0x" ++
      String.ofList (Nat.toDigits 16 letter.toNat) ++ ") at index " ++ toString place
  | notReal letter shape =>
    "%" ++ letter.toString ++ " format: a real number is required, not " ++ shape
  | notWhole letter shape =>
    "%" ++ letter.toString ++ " format: an integer is required, not " ++ shape
  | notNumber shape => "must be real number, not " ++ shape
  | notCharacter => "%c requires int or char"
  | hugeCharacter => "%c arg not in range(0x110000)"
  | starNotWhole => "* wants int"
  | infinite => "cannot convert float infinity to integer"
  | undefined => "cannot convert float NaN to integer"

/-- The flags of a directive. -/
structure Flags where
  left : Bool := false
  plus : Bool := false
  space : Bool := false
  zero : Bool := false
  alternate : Bool := false
  deriving DecidableEq, Repr

/-- A directive behind its name. -/
structure Directive where
  flags : Flags := {}
  width : Nat := 0
  precision : Option Nat := none
  letter : Char
  deriving DecidableEq, Repr

/-- The values that are left, and the members among which names are looked up. -/
structure Values where
  rest : List Json
  members : Option (List (String × Json)) := none

namespace Values

def next (v : Values) : Except Refusal (Json × Values) :=
  match v.rest with
  | [] => .error .tooFewValues
  | j :: rest => .ok (j, { v with rest })

/-- Takes a whole number for a star. -/
def nextWhole (v : Values) : Except Refusal (Int × Values) := do
  let (j, v) ← v.next
  match j with
  | .whole n => return (n, v)
  | .truth b => return (if b then 1 else 0, v)
  | _ => throw .starNotWhole

end Values

/-- The name behind an opening parenthesis, and what stands behind the parenthesis that closes it;
`depth` counts the parentheses that are open inside the name. -/
def readName : Nat → List Char → Option (List Char × List Char)
  | _, [] => none
  | 0, ')' :: rest => some ([], rest)
  | depth, c :: rest =>
    let depth := if c = '(' then depth + 1 else if c = ')' then depth - 1 else depth
    (readName depth rest).map fun (name, rest) => (c :: name, rest)

/-- The flags at the beginning of a text, and what stands behind them. -/
def readFlags (f : Flags) : List Char → Flags × List Char
  | [] => (f, [])
  | c :: rest =>
    match c with
    | '-' => readFlags { f with left := true } rest
    | '+' => readFlags { f with plus := true } rest
    | ' ' => readFlags { f with space := true } rest
    | '0' => readFlags { f with zero := true } rest
    | '#' => readFlags { f with alternate := true } rest
    | _ => (f, c :: rest)

/-- A number at the beginning of a text, or the next value if there is a star. -/
def readNumber (v : Values) : List Char → Except Refusal (Int × List Char × Values)
  | '*' :: rest => do
    let (n, v) ← v.nextWhole
    return (n, rest, v)
  | s =>
    let n := (s.takeWhile Char.isDigit).foldl (fun (n : Nat) c => 10 * n + (c.toNat - 48)) 0
    .ok ((n : Int), s.dropWhile Char.isDigit, v)

/-- A precision at the beginning of a text. -/
def readPrecision (v : Values) :
    List Char → Except Refusal (Option Nat × List Char × Values)
  | '.' :: rest => do
    let (n, rest, v) ← readNumber v rest
    return (some n.toNat, rest, v)
  | s => .ok (none, s, v)

/-- A directive whose percent sign and name have been read, what stands behind it, and the values
that are left. A negative width means that the text is put to the left. -/
def readDirective (v : Values) (s : List Char) :
    Except Refusal (Directive × List Char × Values) := do
  let (flags, s) := readFlags {} s
  let (width, s, v) ← readNumber v s
  let flags := if width < 0 then { flags with left := true } else flags
  let (precision, s, v) ← readPrecision v s
  let s := match s with
    | c :: rest => if c = 'h' || c = 'l' || c = 'L' then rest else c :: rest
    | [] => []
  match s with
  | [] => throw .openDirective
  | letter :: rest => return (⟨flags, width.natAbs, precision, letter⟩, rest, v)

/-- The name of a directive whose percent sign has been read, if it has one: its value becomes the
only one that is left. -/
def resolveName (v : Values) : List Char → Except Refusal (List Char × Values)
  | '(' :: rest =>
    match v.members with
    | none => .error .noMembers
    | some members =>
      match readName 0 rest with
      | none => .error .openName
      | some (name, rest) =>
        match members.lookup (String.ofList name) with
        | none => .error (.missingMember (String.ofList name))
        | some j => .ok (rest, { v with rest := [j] })
  | s => .ok (s, v)

end Intake.Template
