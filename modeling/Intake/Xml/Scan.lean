import Intake.Text.Split
import Intake.Xml.Character

/-! The lexical pieces of XML: white space, names, quoted literals, comments, instructions and
character references. Each reader takes its piece from the beginning of a text and gives it together
with the rest, or nothing if the text does not begin so. -/

namespace Intake.Xml

def skipSpaces (s : List Char) : List Char := s.dropWhile isSpace

/-- The text behind white space that must be there. -/
def skipSomeSpaces? : List Char → Option (List Char)
  | c :: rest => if isSpace c then some (skipSpaces rest) else none
  | [] => none

/-- The text behind an expected beginning. -/
def expect? (start : String) (s : List Char) : Option (List Char) :=
  Text.dropStart? start.toList s

/-- A name without colons. -/
def plainName? : List Char → Option (String × List Char)
  | [] => none
  | c :: rest =>
    if isNameStart c then
      some (String.ofList (c :: rest.takeWhile isNameChar), rest.dropWhile isNameChar)
    else none

/-- Whether a name that may have colons can go on with a character. -/
def isLooseNameChar (c : Char) : Bool := c == ':' || isNameChar c

/-- A name that may have colons anywhere. -/
def looseName? : List Char → Option (String × List Char)
  | [] => none
  | c :: rest =>
    if c = ':' || isNameStart c then
      some (String.ofList (c :: rest.takeWhile isLooseNameChar), rest.dropWhile isLooseNameChar)
    else none

/-- A word of name characters. -/
def nameToken? (s : List Char) : Option (String × List Char) :=
  match s.takeWhile isLooseNameChar with
  | [] => none
  | token => some (String.ofList token, s.dropWhile isLooseNameChar)

/-- A name as written: an optional qualifier before a colon, and the local name. -/
structure WrittenName where
  qualifier : Option String
  localName : String
  deriving DecidableEq, Repr

/-- A name with at most one colon, names on both of its sides. -/
def writtenName? (s : List Char) : Option (WrittenName × List Char) := do
  let (first, rest) ← plainName? s
  match rest with
  | ':' :: rest =>
    let (second, rest) ← plainName? rest
    if rest.head? = some ':' then none else some (⟨some first, second⟩, rest)
  | rest => some (⟨none, first⟩, rest)

def WrittenName.text (n : WrittenName) : String :=
  match n.qualifier with
  | some q => q ++ ":" ++ n.localName
  | none => n.localName

/-- Takes characters of XML up to a mark, which is taken too. -/
def upTo? (mark : List Char) (s : List Char) : Option (List Char × List Char) :=
  go [] s
where
  /-- Goes on with the characters that were taken, in reverse. -/
  go (taken : List Char) : List Char → Option (List Char × List Char)
    | [] => none
    | c :: rest =>
      match Text.dropStart? mark (c :: rest) with
      | some rest => some (taken.reverse, rest)
      | none => if isChar c then go (c :: taken) rest else none

/-- A text between quotation marks of either kind. -/
def literal? : List Char → Option (List Char × List Char)
  | c :: rest => if c = '"' || c = '\'' then upTo? [c] rest else none
  | [] => none

/-- A comment behind its opening mark; two dashes only close it. -/
def comment? (s : List Char) : Option (String × List Char) := do
  let (text, rest) ← upTo? ['-', '-'] s
  match rest with
  | '>' :: rest => some (String.ofList text, rest)
  | _ => none

/-- An instruction behind its opening mark: its target and its data. -/
def instruction? (s : List Char) : Option ((String × String) × List Char) := do
  let (target, rest) ← plainName? s
  if target.toLower = "xml" then none
  else
    match expect? "?>" rest with
    | some rest => some ((target, ""), rest)
    | none =>
      let rest ← skipSomeSpaces? rest
      let (data, rest) ← upTo? ['?', '>'] rest
      some ((target, String.ofList data), rest)

/-- The value of a digit in the given base. -/
def digit? (base : Nat) (c : Char) : Option Nat :=
  let n :=
    if '0' ≤ c && c ≤ '9' then c.toNat - 48
    else if 'a' ≤ c && c ≤ 'f' then c.toNat - 87
    else if 'A' ≤ c && c ≤ 'F' then c.toNat - 55
    else base
  if n < base then some n else none

/-- The number that digits denote; numbers beyond all characters are cut. -/
def codePoint (base : Nat) (digits : List Nat) : Nat :=
  digits.foldl (fun n d => min (base * n + d) 0x110000) 0

/-- The character of a number, if it may occur in a document. -/
def charOf? (n : Nat) : Option Char :=
  if n.isValidChar && isChar (Char.ofNat n) then some (Char.ofNat n) else none

/-- A reference to a character by its number, behind the ampersand and the number sign. -/
def charReference? (s : List Char) : Option (Char × List Char) :=
  let (base, s) : Nat × List Char := match s with
    | 'x' :: rest => (16, rest)
    | s => (10, s)
  let digits := s.takeWhile fun c => (digit? base c).isSome
  match digits, s.dropWhile fun c => (digit? base c).isSome with
  | _ :: _, ';' :: rest => (charOf? (codePoint base (digits.filterMap (digit? base)))).map (·, rest)
  | _, _ => none

/-- A reference to an entity, behind the ampersand or percent sign: its name. -/
def entityReference? (s : List Char) : Option (String × List Char) := do
  let (name, rest) ← plainName? s
  match rest with
  | ';' :: rest => some (name, rest)
  | _ => none

/-- The characters that five names stand for in every document. -/
def standardEntity? : String → Option Char
  | "lt" => some '<'
  | "gt" => some '>'
  | "amp" => some '&'
  | "quot" => some '"'
  | "apos" => some '\''
  | _ => none

end Intake.Xml
