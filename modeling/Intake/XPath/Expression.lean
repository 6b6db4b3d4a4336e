import Intake.Number.Arithmetic

/-! Path expressions: location steps from the root or the context node, combined by operators and
function calls. -/

namespace Intake.XPath

/-- The direction in which a step looks for nodes. -/
inductive Axis where
  | child | descendant | parent | ancestor | followingSibling | precedingSibling
  | following | preceding | attribute | space | self | descendantOrSelf | ancestorOrSelf
  deriving DecidableEq, Repr

namespace Axis

def name : Axis → String
  | child => "child"
  | descendant => "descendant"
  | parent => "parent"
  | ancestor => "ancestor"
  | followingSibling => "following-sibling"
  | precedingSibling => "preceding-sibling"
  | following => "following"
  | preceding => "preceding"
  | .attribute => "attribute"
  | space => "namespace"
  | self => "self"
  | descendantOrSelf => "descendant-or-self"
  | ancestorOrSelf => "ancestor-or-self"

def all : List Axis :=
  [child, descendant, parent, ancestor, followingSibling, precedingSibling, following, preceding,
    .attribute, space, self, descendantOrSelf, ancestorOrSelf]

def ofName? (name : String) : Option Axis := all.find? (·.name == name)

end Axis

/-- Which of the nodes on its axis a step takes. -/
inductive NodeTest where
  /-- Every node of the kind that the axis is about, in a namespace if there is a qualifier. -/
  | any (qualifier : Option String)
  | named (qualifier : Option String) (localName : String)
  | node
  | text
  | comment
  | instruction (target : Option String)
  deriving DecidableEq, Repr

/-- The qualifier that a test mentions. -/
def NodeTest.qualifier? : NodeTest → Option String
  | any q => q
  | named q _ => q
  | _ => none

/-- An operator between two operands. -/
inductive Operator where
  | or | and | equal | unequal | less | atMost | greater | atLeast
  | plus | minus | times | quotient | remainder | union
  deriving DecidableEq, Repr

/-- A path expression. -/
inductive Expr where
  | root
  | context
  | step (start : Expr) (axis : Axis) (test : NodeTest) (predicates : List Expr)
  | filtered (e predicate : Expr)
  | binary (op : Operator) (left right : Expr)
  | negated (e : Expr)
  | numeric (e : Expr)
  | number (x : Number.Double)
  | literal (s : String)
  | variable (qualifier : Option String) (name : String)
  | call (qualifier : Option String) (name : String) (arguments : List Expr)
  deriving Repr, Inhabited

/-- Every node at or below those that an expression selects. -/
def Expr.anywhere (e : Expr) : Expr := .step e .descendantOrSelf .node []

end Intake.XPath
