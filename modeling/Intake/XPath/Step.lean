import Intake.XPath.Expression
import Intake.XPath.Node

/-! The nodes on an axis and the tests on them. Axes that look backward give the nearest nodes
first. Attributes and namespaces have a parent but are nobody's children or siblings. -/

namespace Intake.XPath

open Xml

/-- The rows before a row that are not around it, nearest first. -/
def precedingRows (d : Document) (i : Nat) : List Nat :=
  let around := d.ancestors i
  ((List.range i).filter fun j => !around.contains j).reverse

/-- The rows behind the content of a row. -/
def followingRows (d : Document) (i : Nat) : List Nat :=
  List.range' (d.stop i) (d.size - d.stop i)

/-- The rows with the same parent as a row; the document has no siblings. -/
def siblings (d : Document) (i : Nat) : List Nat :=
  if i = 0 then [] else d.children (d.parent i)

/-- The nodes on an axis, seen from a row. -/
def rowsOn (d : Document) (axis : Axis) (i : Nat) : List Nat :=
  match axis with
  | .child => d.children i
  | .descendant => d.descendants i
  | .descendantOrSelf => i :: d.descendants i
  | .self => [i]
  | .parent => (d.ancestors i).take 1
  | .ancestor => d.ancestors i
  | .ancestorOrSelf => i :: d.ancestors i
  | .followingSibling => (siblings d i).filter fun j => i < j
  | .precedingSibling => ((siblings d i).filter fun j => j < i).reverse
  | .following => followingRows d i
  | .preceding => precedingRows d i
  | .attribute => []
  | .space => []

def nodesOn (d : Document) (axis : Axis) (n : Node) : List Node :=
  match n, axis with
  | .row i, .attribute => (List.range (d.attributes i).length).map (Node.attribute i)
  | .row i, .space => (List.range (d.spaces i).length).map (Node.space i)
  | .row i, axis => (rowsOn d axis i).map .row
  | n, .self => [n]
  | n, .descendantOrSelf => [n]
  | n, .parent => [.row n.owner]
  | n, .ancestor => (n.owner :: d.ancestors n.owner).map .row
  | n, .ancestorOrSelf => n :: (n.owner :: d.ancestors n.owner).map .row
  | n, .following => (followingRows d n.owner).map .row
  | n, .preceding => (precedingRows d n.owner).map .row
  | _, _ => []

/-- A node test with its qualifier replaced by the namespace it stands for. -/
inductive Test where
  | any (space : Option String)
  | named (space : Option String) (localName : String)
  | node
  | text
  | comment
  | instruction (target : Option String)
  deriving DecidableEq, Repr

/-- Whether a name is in a namespace that is asked for. -/
def isIn (space : Option String) (n : Name) : Bool := space.isNone || n.space == space

namespace Test

/-- Whether a row that is not an attribute or a namespace passes. -/
def acceptsRow (d : Document) (t : Test) (i : Nat) : Bool :=
  match t, d.kind i with
  | any space, .element tag => isIn space tag.name
  | named space localName, .element tag =>
    tag.name.localName == localName && tag.name.space == space
  | node, .reference _ => false
  | node, _ => true
  | text, .text _ => true
  | comment, .comment _ => true
  | instruction target, .instruction name _ => target.isNone || target == some name
  | _, _ => false

/-- Whether a node on an axis passes. A name alone fits the elements and attributes in no
namespace, and the namespaces under that qualifier. -/
def accepts (d : Document) (t : Test) (axis : Axis) (n : Node) : Bool :=
  match n with
  | .row i => axis != .attribute && axis != .space && t.acceptsRow d i
  | .attribute i k =>
    match (d.attributes i)[k]?, t with
    | some a, any space => axis == .attribute && isIn space a.name
    | some a, named space localName =>
      axis == .attribute && a.name.localName == localName && a.name.space == space
    | some _, node => true
    | _, _ => false
  | .space i k =>
    match (d.spaces i)[k]?, t with
    | some _, any _ => axis == .space
    | some s, named _ localName => axis == .space && s.qualifier == some localName
    | some _, node => true
    | _, _ => false

end Test

end Intake.XPath
