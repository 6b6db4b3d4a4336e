import Intake.Xml.Scan

/-! The declaration at the beginning of a document: the version, the encoding, and whether the
document stands alone. -/

namespace Intake.Xml

/-- The value of a pseudo-attribute of the declaration, behind its name. -/
def pseudoValue? (s : List Char) : Option (List Char × List Char) :=
  (expect? "=" (skipSpaces s)).bind fun s => literal? (skipSpaces s)

/-- Whether a text is the number of a version that can be read. -/
def isVersion (s : List Char) : Bool :=
  match s with
  | '1' :: '.' :: rest => rest.all Char.isDigit
  | _ => false

/-- Whether a text can be the name of an encoding. -/
def isEncodingName : List Char → Bool
  | c :: rest => c.isAlpha && rest.all fun c => c.isAlphanum || c == '.' || c == '_' || c == '-'
  | [] => false

/-- What the declaration at the beginning of a document says. -/
structure Heading where
  encoding : Option String := none
  isStandalone : Bool := false
  deriving DecidableEq, Repr

/-- An optional pseudo-attribute whose value has to satisfy `p`; white space stands before it. -/
def pseudo? (name : String) (p : List Char → Bool) (s : List Char) :
    Option (Option (List Char) × List Char) :=
  match (skipSomeSpaces? s).bind (expect? name) with
  | none => some (none, s)
  | some rest =>
    match pseudoValue? rest with
    | some (value, rest) => if p value then some (some value, rest) else none
    | none => none

/-- The declaration at the beginning of a document, behind its opening mark and name. -/
def heading? (s : List Char) : Option (Heading × List Char) := do
  let (version, s) ← pseudo? "version" isVersion s
  let (encoding, s) ← pseudo? "encoding" isEncodingName s
  let (standalone, s) ← pseudo? "standalone" (["yes".toList, "no".toList].contains ·) s
  let s ← expect? "?>" (skipSpaces s)
  if version.isNone then none
  else return (⟨encoding.map String.ofList, standalone == some "yes".toList⟩, s)

/-- Whether a document begins with a declaration. -/
def hasHeading (s : List Char) : Bool :=
  match expect? "<?xml" s with
  | some (c :: _) => isSpace c
  | _ => false

/-- The heading of a document, an empty one if there is none, and the rest. -/
def headingOf? (s : List Char) : Option (Heading × List Char) :=
  if hasHeading s then heading? (s.drop 5) else some ({}, s)

end Intake.Xml
