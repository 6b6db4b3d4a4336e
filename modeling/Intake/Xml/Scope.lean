import Intake.Xml.Scan
import Intake.Xml.Uri

/-! Namespaces in scope, and the content of a document as a tree: elements with their names resolved,
and what stands between their tags. A start tag declares namespaces for its own names and for its
content; names of elements without a qualifier are in the default namespace, those of attributes in
none. -/

namespace Intake.Xml

/-- A name and the namespace that its qualifier stands for. -/
structure Name where
  space : Option String
  qualifier : Option String
  localName : String
  deriving DecidableEq, Repr, Inhabited

/-- The name with its namespace in braces in front. -/
def Name.expanded (n : Name) : String :=
  match n.space with
  | some space => "\x7b" ++ space ++ "\x7d" ++ n.localName
  | none => n.localName

def Name.written (n : Name) : String :=
  match n.qualifier with
  | some q => q ++ ":" ++ n.localName
  | none => n.localName

/-- An attribute; an identifier names its element within the document. -/
structure Attribute where
  name : Name
  value : String
  isIdentifier : Bool := false
  deriving DecidableEq, Repr

/-- The declaration of a namespace under a qualifier, or as the default one. An empty default
takes the one around it back. -/
structure Declaration where
  qualifier : Option String
  space : String
  deriving DecidableEq, Repr

/-- What a start tag says. -/
structure Tag where
  name : Name
  attributes : List Attribute
  declarations : List Declaration
  deriving DecidableEq, Repr, Inhabited

/-- A piece of content. A reference is left as it is written and has the text it stands for. -/
inductive Content where
  | element (tag : Tag) (children : List Content)
  | text (s : String)
  | comment (s : String)
  | instruction (target data : String)
  | reference (s : String)
  deriving Repr, Inhabited

mutual

/-- The text of a piece of content that is not a comment or an instruction. -/
def Content.chars : Content → String
  | .element _ children => charsOf children
  | .text s => s
  | .reference s => s
  | .comment _ => ""
  | .instruction _ _ => ""

/-- The text of all pieces. -/
def Content.charsOf : List Content → String
  | [] => ""
  | c :: rest => c.chars ++ charsOf rest

end

/-- Puts a text behind reversed content; neighbouring texts are one. -/
def Content.addText (s : List Char) : List Content → List Content
  | .text t :: rest => .text (t ++ String.ofList s) :: rest
  | content => if s.isEmpty then content else .text (String.ofList s) :: content

/-- The namespace that the qualifier `xml` always stands for. -/
def xmlSpace : String := "http://www.w3.org/XML/1998/namespace"

/-- The namespace of declarations, which cannot be declared. -/
def declarationSpace : String := "http://www.w3.org/2000/xmlns/"

/-- The declarations around a place, nearest first. -/
abbrev Scope := List Declaration

namespace Scope

/-- The nearest declaration of a qualifier, or of the default namespace. -/
def find? (scope : Scope) (qualifier : Option String) : Option String :=
  (List.find? (fun d : Declaration => d.qualifier == qualifier) scope).map Declaration.space

/-- The name of an element, if its qualifier is declared. -/
def elementName? (scope : Scope) (n : WrittenName) : Option Name :=
  match n.qualifier with
  | none => some ⟨(scope.find? none).filter (!String.isEmpty ·), none, n.localName⟩
  | some "xml" => some ⟨some xmlSpace, some "xml", n.localName⟩
  | some q => (scope.find? (some q)).map fun space => ⟨some space, some q, n.localName⟩

/-- The name of an attribute, if its qualifier is declared. -/
def attributeName? (scope : Scope) (n : WrittenName) : Option Name :=
  match n.qualifier with
  | none => some ⟨none, none, n.localName⟩
  | some _ => scope.elementName? n

end Scope

/-- An attribute as written or as its declaration adds it. -/
structure WrittenAttribute where
  name : WrittenName
  value : String
  isIdentifier : Bool
  deriving DecidableEq, Repr

namespace WrittenAttribute

/-- Whether the attribute declares a namespace. -/
def isDeclaration (a : WrittenAttribute) : Bool :=
  a.name.qualifier == some "xmlns" || a.name == ⟨none, "xmlns"⟩

/-- The declaration that an attribute makes: nothing if it is not allowed, and no declaration if it
says what is so anyway. -/
def declaration? (a : WrittenAttribute) : Option (Option Declaration) :=
  let isReserved := a.value == xmlSpace || a.value == declarationSpace
  let isWellFormed := a.value.isEmpty || Uri.isReference a.value.toList
  match a.name.qualifier with
  | none => if isReserved || !isWellFormed then none else some (some ⟨none, a.value⟩)
  | some _ =>
    match a.name.localName with
    | "xml" => if a.value == xmlSpace then some none else none
    | "xmlns" => none
    | q =>
      if isReserved || !isWellFormed || a.value.isEmpty then none
      else some (some ⟨some q, a.value⟩)

end WrittenAttribute

/-- Whether all members of a list differ. -/
def allDiffer {α : Type} [BEq α] : List α → Bool
  | [] => true
  | a :: rest => !rest.contains a && allDiffer rest

/-- Whether a value may be an identifier. -/
def isIdentifierText (value : String) : Bool :=
  match plainName? value.toList with
  | some (_, rest) => rest.isEmpty
  | none => false

/-- An attribute with its name resolved. The attribute `xml:id` holds an identifier. -/
def resolveAttribute? (scope : Scope) (a : WrittenAttribute) : Option Attribute := do
  let name ← scope.attributeName? a.name
  let isXmlId := name.space == some xmlSpace && name.localName == "id"
  if isXmlId && !isIdentifierText a.value then none
  else some ⟨name, a.value, a.isIdentifier || isXmlId⟩

/-- A start tag with its names resolved, and the scope of its content. -/
def resolveTag? (scope : Scope) (name : WrittenName) (attributes : List WrittenAttribute) :
    Option (Tag × Scope) := do
  let (declaring, plain) := attributes.partition WrittenAttribute.isDeclaration
  let declarations := (← declaring.mapM WrittenAttribute.declaration?).filterMap id
  let scope : Scope := declarations.reverse ++ scope
  let resolved ← plain.mapM (resolveAttribute? scope)
  if !allDiffer (attributes.map WrittenAttribute.name) ||
      !allDiffer (resolved.map fun a => (a.name.space, a.name.localName)) then none
  else
    let name ← scope.elementName? name
    return (⟨name, resolved, declarations⟩, scope)

end Intake.Xml
