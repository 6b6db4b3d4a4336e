import Intake.Json.Printer
import Intake.Number.Arithmetic
import Intake.Template.Number

/-! Filling templates with values. -/

namespace Intake.Template

open Number

/-- A text in at least the width of a directive. -/
def padded (d : Directive) (s : List Char) : List Char :=
  let fill := List.replicate (d.width - s.length) ' '
  if d.flags.left then s ++ fill else fill ++ s

/-- A number in at least the width of a directive: zeros go between the sign and the digits, and
spaces in front of the sign. -/
def paddedNumber (d : Directive) (negative : Bool) (mark digits : List Char) : List Char :=
  let sign :=
    if negative then ['-'] else if d.flags.plus then ['+'] else if d.flags.space then [' '] else []
  let front := sign ++ mark
  if d.flags.zero && !d.flags.left then
    front ++ List.replicate (d.width - front.length - digits.length) '0' ++ digits
  else padded d (front ++ digits)

def plainText : Json → String
  | .text s => s
  | j => j.shown

/-- A text with all characters beyond ASCII escaped. -/
def asciiText (s : String) : List Char :=
  s.toList.flatMap fun c => if c.toNat < 128 then [c] else Text.numericEscape c

/-- The whole number that a value stands for, decimals cut off. -/
def cutWhole (letter : Char) : Json → Except Refusal Int
  | .whole n => .ok n
  | .truth b => .ok (if b then 1 else 0)
  | .real .nan => .error .undefined
  | .real (.infinite _) => .error .infinite
  | .real (.finite negative mantissa exponent) =>
    let (num, den) := Double.scaled mantissa 1 exponent
    .ok (if negative then -((num / den : Nat) : Int) else ((num / den : Nat) : Int))
  | j => .error (.notReal letter j.shapeName)

/-- The whole number that a value is. -/
def exactWhole (letter : Char) : Json → Except Refusal Int
  | .whole n => .ok n
  | .truth b => .ok (if b then 1 else 0)
  | j => .error (.notWhole letter j.shapeName)

def doubleOf : Json → Except Refusal Double
  | .whole n => .ok (Double.ofInt n)
  | .truth b => .ok (Double.ofInt (if b then 1 else 0))
  | .real x => .ok x
  | j => .error (.notNumber j.shapeName)

/-- The character that a value stands for. -/
def characterOf : Json → Except Refusal Char
  | .whole n => if 0 ≤ n && n < 0x110000 then .ok (Char.ofNat n.toNat) else .error .hugeCharacter
  | .text s =>
    match s.toList with
    | [c] => .ok c
    | _ => .error .notCharacter
  | _ => .error .notCharacter

/-- A value as a directive writes it; `place` is where the directive's letter stands. -/
def write (d : Directive) (place : Nat) (j : Json) : Except Refusal (List Char) := do
  let cut (s : List Char) : List Char := padded d (s.take (d.precision.getD s.length))
  let base (mark : List Char) (base : Nat) (n : Int) : List Char :=
    let mark := if d.flags.alternate then mark else []
    paddedNumber d (n < 0) mark (wholeDigits base d.precision n.natAbs)
  match d.letter with
  | 's' => return cut (plainText j).toList
  | 'r' => return cut j.shown.toList
  | 'a' => return cut (asciiText j.shown)
  | 'c' => return padded d [← characterOf j]
  | 'd' | 'i' | 'u' => return base [] 10 (← cutWhole d.letter j)
  | 'o' => return base ['0', 'o'] 8 (← exactWhole d.letter j)
  | 'x' => return base ['0', 'x'] 16 (← exactWhole d.letter j)
  | 'X' => return (base ['0', 'x'] 16 (← exactWhole d.letter j)).map Char.toUpper
  | 'e' | 'f' | 'g' | 'E' | 'F' | 'G' =>
    let x ← doubleOf j
    let digits := realDigits d.letter.toLower (d.precision.getD 6) d.flags.alternate x
    let text := paddedNumber d (isNegative x) [] digits
    return if d.letter.isUpper then text.map Char.toUpper else text
  | letter => throw (.unknownLetter letter place)

/-- Fills a template with at most `fuel` directives and plain characters; `length` is the length of
the whole template. -/
def fillFrom (length : Nat) : Nat → Values → List Char → Except Refusal (List Char)
  | 0, _, _ => .ok []
  | _, v, [] => if v.members.isNone && !v.rest.isEmpty then .error .tooManyValues else .ok []
  | fuel + 1, v, '%' :: rest => do
    let (rest, v) ← resolveName v rest
    let (d, rest, v) ← readDirective v rest
    if d.letter = '%' then return '%' :: (← fillFrom length fuel v rest)
    let (j, v) ← v.next
    let text ← write d (length - rest.length - 1) j
    return text ++ (← fillFrom length fuel v rest)
  | fuel + 1, v, c :: rest => do return c :: (← fillFrom length fuel v rest)

def fill (template : String) (v : Values) : Except Refusal String :=
  let chars := template.toList
  (fillFrom chars.length (chars.length + 1) v chars).map String.ofList

/-- Fills a template with the members of an object. -/
def fillMembers (template : String) (members : List (String × Json)) : Except Refusal String :=
  fill template ⟨[.object members], some members⟩

/-- Fills a template with values in turn; a single object gives its members. Without values the
template stays as it is. -/
def fillValues (template : String) : List Json → Except Refusal String
  | [] => .ok template
  | [.object (m :: members)] => fillMembers template (m :: members)
  | values => fill template ⟨values, none⟩

end Intake.Template
