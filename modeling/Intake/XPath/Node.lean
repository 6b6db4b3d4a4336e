import Intake.Xml.Document

/-! The nodes that paths select: rows of a document, and the attributes and namespaces of its
elements, which come behind their element and before its content. -/

namespace Intake.XPath

open Xml

/-- A node of a document. -/
inductive Node where
  | row (i : Nat)
  | space (owner index : Nat)
  | attribute (owner index : Nat)
  deriving DecidableEq, Repr

namespace Node

/-- The row of a node, or of the element that it belongs to. -/
def owner : Node → Nat
  | row i => i
  | space i _ => i
  | .attribute i _ => i

/-- The place of a node in document order. -/
def key : Node → Nat × Nat × Nat
  | row i => (i, 0, 0)
  | space i k => (i, 1, k)
  | .attribute i k => (i, 2, k)

/-- Whether a node comes before another one or is the same. -/
def isBefore (a b : Node) : Bool :=
  let (i, s, k) := a.key
  let (j, t, l) := b.key
  i < j || (i == j && (s < t || (s == t && k ≤ l)))

end Node

/-- A list without repetitions of neighbours. -/
def withoutRepeats : List Node → List Node
  | a :: b :: rest =>
    if a = b then withoutRepeats (b :: rest) else a :: withoutRepeats (b :: rest)
  | nodes => nodes

/-- Nodes in document order, each once. -/
def inOrder (nodes : List Node) : List Node := withoutRepeats (nodes.mergeSort Node.isBefore)

end Intake.XPath

namespace Intake.Xml.Document

/-- The rows around a row, nearest first; the last one is the document. -/
def ancestors (d : Document) (i : Nat) : List Nat :=
  if 0 < i ∧ i < d.size then d.parent i :: d.ancestors (d.parent i) else []
termination_by i
decreasing_by
  rename_i h
  exact (d.parent_lt h.1 h.2).1

def attributes (d : Document) (i : Nat) : List Attribute :=
  ((d.tag? i).map Tag.attributes).getD []

/-- The declarations that an element and those around it make, nearest first. -/
def declarationsAround (d : Document) (i : Nat) : List Declaration :=
  (i :: d.ancestors i).flatMap fun j => ((d.tag? j).map Tag.declarations).getD []

/-- The first declaration of each qualifier. -/
def firstDeclarations : List Declaration → List Declaration
  | [] => []
  | d :: rest => d :: (firstDeclarations rest).filter fun e => e.qualifier != d.qualifier

/-- The namespaces that are in scope at an element. The one that needs no declaration comes first,
the nearest declaration last. -/
def spaces (d : Document) (i : Nat) : List Declaration :=
  if d.isElement i then
    ⟨some "xml", xmlSpace⟩ :: (firstDeclarations (d.declarationsAround i)).reverse
  else []

end Intake.Xml.Document

namespace Intake.XPath.Node

open Xml

def attribute? (d : Document) : Node → Option Attribute
  | .attribute i k => (d.attributes i)[k]?
  | _ => none

def space? (d : Document) : Node → Option Declaration
  | .space i k => (d.spaces i)[k]?
  | _ => none

def text (d : Document) : Node → String
  | .row i => d.text i
  | .attribute i k => (((d.attributes i)[k]?).map Attribute.value).getD ""
  | .space i k => (((d.spaces i)[k]?).map Declaration.space).getD ""

def name? (d : Document) : Node → Option Name
  | .row i => (d.tag? i).map Tag.name
  | .attribute i k => ((d.attributes i)[k]?).map Attribute.name
  | .space _ _ => none

/-- The local name of a node; that of an instruction is its target, that of a namespace its
qualifier. -/
def localName (d : Document) (n : Node) : String :=
  match n with
  | .row i =>
    match d.kind i with
    | .element tag => tag.name.localName
    | .instruction target _ => target
    | _ => ""
  | .attribute i k => (((d.attributes i)[k]?).map fun a => a.name.localName).getD ""
  | .space i k => (((d.spaces i)[k]?).bind Declaration.qualifier).getD ""

/-- The name of a node as it is written. -/
def writtenName (d : Document) (n : Node) : String :=
  match n.name? d with
  | some name => name.written
  | none => n.localName d

/-- The namespace of the name of a node. -/
def nameSpace (d : Document) (n : Node) : String := ((n.name? d).bind Name.space).getD ""

end Intake.XPath.Node
