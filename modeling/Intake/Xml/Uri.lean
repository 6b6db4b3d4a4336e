import Intake.Xml.Scan

/-! The syntax of the references that name namespaces and external resources: an optional scheme, an
optional authority, a path, an optional query and an optional fragment, in ASCII. -/

namespace Intake.Xml.Uri

def isLetter (c : Char) : Bool := c.isAlpha

/-- Whether a character stands for itself everywhere. -/
def isUnreserved (c : Char) : Bool :=
  c.isAlphanum || c == '-' || c == '.' || c == '_' || c == '~'

/-- Whether a character may delimit parts of a component. -/
def isDelimiter (c : Char) : Bool := "!$&'()*+,;=".toList.contains c

/-- Drops plain characters, delimiters, percent-encoded bytes and the characters in `extra`. -/
def dropPart (extra : String) : List Char → List Char
  | '%' :: a :: b :: rest =>
    if (digit? 16 a).isSome && (digit? 16 b).isSome then dropPart extra rest
    else '%' :: a :: b :: rest
  | c :: rest =>
    if isUnreserved c || isDelimiter c || extra.toList.contains c then dropPart extra rest
    else c :: rest
  | [] => []

/-- Drops a scheme and its colon. -/
def dropScheme? : List Char → Option (List Char)
  | c :: rest =>
    if isLetter c then
      expect? ":" (rest.dropWhile fun c => c.isAlphanum || c == '+' || c == '-' || c == '.')
    else none
  | [] => none

/-- Drops a host: an address between brackets, or a name that may be empty. -/
def dropHost? : List Char → Option (List Char)
  | '[' :: rest =>
    match rest.dropWhile (· != ']') with
    | ']' :: rest => some rest
    | _ => none
  | s => some (dropPart "" s)

/-- Drops a port and the colon in front of it, if there is a colon. -/
def dropPort? : List Char → Option (List Char)
  | ':' :: rest =>
    match rest with
    | c :: _ => if c.isDigit then some (rest.dropWhile Char.isDigit) else none
    | [] => none
  | s => some s

/-- Drops an authority: an optional user, a host and an optional port. -/
def dropAuthority? (s : List Char) : Option (List Char) :=
  let s := match dropPart ":" s with
    | '@' :: rest => rest
    | _ => s
  (dropHost? s).bind dropPort?

/-- Whether a query and a fragment, both optional, are all that is left. -/
def isEnding (s : List Char) : Bool :=
  let s := match s with
    | '?' :: rest => dropPart ":@/?" rest
    | s => s
  let s := match s with
    | '#' :: rest => dropPart ":@/?[]" rest
    | s => s
  s.isEmpty

/-- Whether a text begins an authority or a path that is not followed by anything but an ending. -/
def isHierarchy (s : List Char) : Bool :=
  match s with
  | '/' :: '/' :: rest =>
    match dropAuthority? rest with
    | some ('/' :: rest) => isEnding (dropPart ":@/" rest)
    | some rest => isEnding rest
    | none => false
  | s => isEnding (dropPart ":@/" s)

/-- Whether the first segment of a relative path has no colon. -/
def isRelative (s : List Char) : Bool :=
  (dropPart "@" s).head? != some ':' && isHierarchy s

/-- Whether a text is a reference, absolute or relative. -/
def isReference (s : List Char) : Bool :=
  ((dropScheme? s).map isHierarchy).getD false || isRelative s

end Intake.Xml.Uri
