import Intake.Xml.Entity
import Intake.Xml.Uri

/-! Document type declarations. Declarations inside the document are read: entities, attributes with
their types and defaults, and, for their syntax only, elements and notations. Nothing outside the
document is read. -/

namespace Intake.Xml

/-- What is declared about an attribute of the elements of one name. -/
structure AttributeRule where
  element : String
  name : WrittenName
  isPlain : Bool
  isIdentifier : Bool
  default : Option String
  deriving DecidableEq, Repr

/-- The declarations of a document. The first one of a name counts. -/
structure Doctype where
  entities : List (String × Entity) := []
  parameters : List (String × Entity) := []
  attributes : List AttributeRule := []
  hasExternalPart : Bool := false
  usesParameters : Bool := false
  deriving Repr

namespace Doctype

/-- A quoted reference to a resource. -/
def systemLiteral? (s : List Char) : Option (List Char × List Char) := literal? s

/-- Whether a character may occur in a public identifier. -/
def isPublicChar (c : Char) : Bool :=
  c.isAlphanum || "\r\n -'()+,./:=?;!*#@$_%".toList.contains c

/-- A quoted public identifier. -/
def publicLiteral? (s : List Char) : Option (List Char × List Char) :=
  (literal? s).filter fun (text, _) => text.all isPublicChar

/-- The identifier of an external resource; a public one may lack the system's if `isLoose`. -/
def externalId? (isLoose : Bool) (s : List Char) : Option (Option (List Char) × List Char) :=
  match expect? "SYSTEM" s with
  | some rest => do
    let (text, rest) ← systemLiteral? (← skipSomeSpaces? rest)
    return (some text, rest)
  | none => do
    let rest ← expect? "PUBLIC" s
    let (_, rest) ← publicLiteral? (← skipSomeSpaces? rest)
    match (skipSomeSpaces? rest).bind systemLiteral? with
    | some (text, rest) => some (some text, rest)
    | none => if isLoose then some (none, rest) else none

/-- The replacement text of an entity: references to characters are replaced, references to
entities stay. -/
def entityText? (taken : List Char) : Nat → List Char → Option (List Char)
  | _, [] => some taken.reverse
  | 0, _ => none
  | fuel + 1, '&' :: '#' :: rest =>
    match charReference? rest with
    | some (c, rest) => entityText? (c :: taken) fuel rest
    | none => none
  | fuel + 1, '&' :: rest =>
    match entityReference? rest with
    | some (name, rest) => entityText? (';' :: name.toList.reverse ++ '&' :: taken) fuel rest
    | none => none
  | fuel + 1, c :: rest => if c = '%' then none else entityText? (c :: taken) fuel rest

/-- The end of a declaration. -/
def close? (s : List Char) : Option (List Char) := expect? ">" (skipSpaces s)

/-- The resource that an entity stands for, which is not text if a notation is given for it. -/
def resource? (isParameter : Bool) (s : List Char) : Option (Entity × List Char) := do
  let (system, rest) ← externalId? false s
  let system := system.getD []
  if !Uri.isReference system || system.contains '#' then none
  else
    match (skipSomeSpaces? rest).bind (expect? "NDATA") with
    | none => some (.external, rest)
    | some rest =>
      if isParameter then none
      else (skipSomeSpaces? rest).bind fun rest =>
        (plainName? rest).map fun (_, rest) => (.unparsed, rest)

/-- What an entity stands for. -/
def definition? (isParameter : Bool) (s : List Char) : Option (Entity × List Char) :=
  match literal? s with
  | some (text, rest) =>
    (entityText? [] (text.length + 1) text).map fun text => (.internal text, rest)
  | none => resource? isParameter s

/-- The declaration of an entity, behind its opening mark. -/
def entity? (d : Doctype) (s : List Char) : Option (Doctype × List Char) := do
  let s ← skipSomeSpaces? s
  let (isParameter, s) ← match s with
    | '%' :: rest => (skipSomeSpaces? rest).map (true, ·)
    | s => some (false, s)
  let (name, s) ← plainName? s
  let (entity, s) ← definition? isParameter (← skipSomeSpaces? s)
  let s ← close? s
  let declare (known : List (String × Entity)) : List (String × Entity) :=
    if (known.lookup name).isSome then known else known ++ [(name, entity)]
  return (if isParameter then { d with parameters := declare d.parameters }
    else { d with entities := declare d.entities }, s)

/-- Names or words between bars and behind an opening parenthesis, up to the closing one. -/
def choices? (item : List Char → Option (String × List Char)) :
    Nat → List Char → Option (List Char)
  | 0, _ => none
  | fuel + 1, s => do
    let (_, s) ← item (skipSpaces s)
    match skipSpaces s with
    | '|' :: rest => choices? item fuel rest
    | ')' :: rest => some rest
    | _ => none

/-- The words for the types of attributes that are written as one word. -/
def attributeTypes : List String :=
  ["CDATA", "IDREFS", "IDREF", "ID", "ENTITIES", "ENTITY", "NMTOKENS", "NMTOKEN"]

/-- The type of an attribute: the word for it, empty for an enumeration. -/
def attributeType? (s : List Char) : Option (String × List Char) :=
  match attributeTypes.findSome? fun word => (expect? word s).map (word, ·) with
  | some found => some found
  | none =>
    match expect? "NOTATION" s with
    | some rest => do
      let rest ← expect? "(" (← skipSomeSpaces? rest)
      return ("", ← choices? plainName? rest.length rest)
    | none => do
      let rest ← expect? "(" s
      return ("", ← choices? nameToken? rest.length rest)

/-- The entities as content can refer to them so far. -/
def known (d : Doctype) (isTolerant : Bool) (limit : Nat) : Entities :=
  ⟨d.entities, isTolerant, limit⟩

/-- The default of an attribute: none if it is required or may be missing. -/
def attributeDefault? (d : Doctype) (isPlain : Bool) (s : List Char) :
    Option (Option String × List Char) :=
  match expect? "#REQUIRED" s, expect? "#IMPLIED" s with
  | some rest, _ => some (none, rest)
  | none, some rest => some (none, rest)
  | none, none =>
    let s := match expect? "#FIXED" s with
      | some rest => skipSomeSpaces? rest
      | none => some s
    (s.bind literal?).bind fun (written, rest) =>
      ((d.known d.hasExternalPart 1000000).value? 0 written).map fun (value, _) =>
        (some (String.ofList (if isPlain then value else tokenized value)), rest)

/-- The attributes in a declaration for the elements called `element`. -/
def attributeRules? (element : String) : Nat → Doctype → List Char → Option (Doctype × List Char)
  | 0, _, _ => none
  | fuel + 1, d, s =>
    match close? s with
    | some rest => some (d, rest)
    | none => do
      let (name, s) ← writtenName? (← skipSomeSpaces? s)
      let (type, s) ← attributeType? (← skipSomeSpaces? s)
      let isPlain := type = "CDATA"
      let (default, s) ← attributeDefault? d isPlain (← skipSomeSpaces? s)
      let isKnown := d.attributes.any fun r => r.element == element && r.name == name
      let rule : AttributeRule := ⟨element, name, isPlain, type = "ID", default⟩
      attributeRules? element fuel
        (if isKnown then d else { d with attributes := d.attributes ++ [rule] }) s

/-- The declaration of attributes, behind its opening mark. -/
def attributeList? (d : Doctype) (s : List Char) : Option (Doctype × List Char) := do
  let (element, s) ← looseName? (← skipSomeSpaces? s)
  attributeRules? element s.length d s

/-- Drops a sign of repetition. -/
def dropRepetition : List Char → List Char
  | c :: rest => if c = '?' || c = '*' || c = '+' then rest else c :: rest
  | [] => []

/-- A content model behind its opening parenthesis: particles between bars, or between commas, up to
the closing parenthesis; `separator` is the one that is used so far. -/
def model? : Nat → Option Char → List Char → Option (List Char)
  | 0, _, _ => none
  | fuel + 1, separator, s => do
    let s ← match skipSpaces s with
      | '(' :: rest => model? fuel none rest
      | s => (looseName? s).map fun (_, rest) => dropRepetition rest
    match skipSpaces s with
    | ')' :: rest => some (dropRepetition rest)
    | c :: rest =>
      if (c = '|' || c = ',') && (separator.isNone || separator = some c) then
        model? fuel (some c) rest
      else none
    | [] => none

/-- Mixed content behind its leading word: names between bars, which a star must follow. -/
def mixed? (s : List Char) : Option (List Char) :=
  match skipSpaces s with
  | ')' :: '*' :: rest => some rest
  | ')' :: rest => some rest
  | '|' :: rest => (choices? looseName? rest.length rest).bind (expect? "*")
  | _ => none

/-- What the elements of a name may hold. -/
def elementModel? (s : List Char) : Option (List Char) :=
  match expect? "EMPTY" s, expect? "ANY" s with
  | some rest, _ => some rest
  | none, some rest => some rest
  | none, none =>
    (expect? "(" s).bind fun rest =>
      match expect? "#PCDATA" (skipSpaces rest) with
      | some rest => mixed? rest
      | none => model? rest.length none rest

/-- The declaration of an element, behind its opening mark. -/
def element? (s : List Char) : Option (List Char) := do
  let (_, s) ← looseName? (← skipSomeSpaces? s)
  let s ← skipSomeSpaces? s
  close? (← elementModel? s)

/-- The declaration of a notation, behind its opening mark. -/
def notationMark? (s : List Char) : Option (List Char) := do
  let (_, s) ← plainName? (← skipSomeSpaces? s)
  let (_, s) ← externalId? true (← skipSomeSpaces? s)
  close? s

/-- The declarations up to the end of a text, or up to a closing bracket if `isInner`. A reference
to a parameter inserts its declarations, which `inside` reads. -/
def declarationsFrom? (isInner : Bool) (inside : Doctype → List Char → Option (Doctype × List Char)) :
    Nat → Doctype → List Char → Option (Doctype × List Char)
  | 0, _, _ => none
  | fuel + 1, d, s =>
    match skipSpaces s with
    | [] => if isInner then none else some (d, [])
    | ']' :: rest => if isInner then some (d, rest) else none
    | '<' :: '!' :: '-' :: '-' :: rest =>
      match comment? rest with
      | some (_, rest) => declarationsFrom? isInner inside fuel d rest
      | none => none
    | '<' :: '?' :: rest =>
      match instruction? rest with
      | some (_, rest) => declarationsFrom? isInner inside fuel d rest
      | none => none
    | '%' :: rest =>
      match entityReference? rest with
      | none => none
      | some (name, rest) =>
        let found := d.parameters.lookup name
        if found.isNone && !d.hasExternalPart && !d.usesParameters then none
        else
          let d := { d with usesParameters := true }
          match found with
          | some (.internal text) =>
            match inside d text with
            | some (d, _) => declarationsFrom? isInner inside fuel d rest
            | none => none
          | _ => declarationsFrom? isInner inside fuel d rest
    | s =>
      let next : Option (Doctype × List Char) :=
        match expect? "<!ENTITY" s, expect? "<!ATTLIST" s, expect? "<!ELEMENT" s,
          expect? "<!NOTATION" s with
        | some rest, _, _, _ => d.entity? rest
        | _, some rest, _, _ => d.attributeList? rest
        | _, _, some rest, _ => (element? rest).map (d, ·)
        | _, _, _, some rest => (notationMark? rest).map (d, ·)
        | none, none, none, none => none
      match next with
      | some (d, rest) => declarationsFrom? isInner inside fuel d rest
      | none => none

/-- The declarations that a text begins with. `levels` bounds how deep references to parameters are
nested. -/
def declarations? : Nat → Bool → Doctype → List Char → Option (Doctype × List Char)
  | 0, isInner, d, s => declarationsFrom? isInner (fun _ _ => none) (s.length + 1) d s
  | levels + 1, isInner, d, s =>
    declarationsFrom? isInner (declarations? levels false) (s.length + 1) d s

/-- A document type declaration behind its opening mark. -/
def read? (s : List Char) : Option (Doctype × List Char) := do
  let (_, s) ← looseName? (← skipSomeSpaces? s)
  let s := skipSpaces s
  let (isExternal, s) := match externalId? false s with
    | some (_, rest) => (true, skipSpaces rest)
    | none => (false, s)
  let d : Doctype := { hasExternalPart := isExternal }
  match s with
  | '[' :: rest =>
    let (d, rest) ← declarations? rest.length true d rest
    return (d, ← close? rest)
  | s => return (d, ← expect? ">" s)

end Doctype

end Intake.Xml
