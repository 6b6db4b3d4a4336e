import Intake.XPath.Function
import Intake.XPath.Reader
import Intake.XPath.Step

/-! The evaluation of expressions. A step takes its nodes from every node it starts at, filters them
by its predicates one after the other, and puts all of them in document order. -/

namespace Intake.XPath

open Xml Number

/-- The namespaces that qualifiers stand for. -/
abbrev Spaces := List (String × String)

/-- The namespace that a qualifier stands for. -/
def spaceOf? (spaces : Spaces) (qualifier : String) : Except Error String :=
  if qualifier = "xml" then .ok xmlSpace
  else
    match spaces.lookup qualifier with
    | some space => .ok space
    | none => .error .unknownQualifier

/-- An optional qualifier replaced by its namespace. -/
def resolve? (spaces : Spaces) : Option String → Except Error (Option String)
  | none => .ok none
  | some q => (spaceOf? spaces q).map some

/-- A node test with its qualifier replaced. -/
def NodeTest.resolve (spaces : Spaces) : NodeTest → Except Error Test
  | any q => (resolve? spaces q).map .any
  | named q localName => (resolve? spaces q).map fun space => .named space localName
  | node => .ok .node
  | text => .ok .text
  | comment => .ok .comment
  | instruction target => .ok (.instruction target)

/-- Nodes with their positions. -/
def focuses (ns : List Node) : List Focus :=
  ns.zipIdx.map fun (n, i) => ⟨n, i + 1, ns.length⟩

/-- Whether the value of a predicate keeps a node: a number keeps the node at that position. -/
def keeps (f : Focus) : Value → Bool
  | .number x => x.isSame (Double.ofInt f.position)
  | v => v.toTruth

/-- Filters nodes by a predicate. -/
def filterNodes (predicate : Focus → Except Error Value) (ns : List Node) :
    Except Error (List Node) := do
  let kept ← (focuses ns).filterM fun f => (predicate f).map (keeps f)
  return kept.map Focus.node

/-- The value of an operator that evaluates both operands. -/
def Operator.run (d : Document) (op : Operator) (a b : Value) : Except Error Value :=
  let arithmetic (f : Double → Double → Double) : Except Error Value :=
    .ok (.number (f (a.toNumber d) (b.toNumber d)))
  match op with
  | or => .ok (.truth (a.toTruth || b.toTruth))
  | and => .ok (.truth (a.toTruth && b.toTruth))
  | equal => .ok (.truth (a.isEqual d true b))
  | unequal => .ok (.truth (a.isEqual d false b))
  | less => .ok (.truth (a.isOrdered d Double.isLess b))
  | greater => .ok (.truth (a.isOrdered d (fun x y => y.isLess x) b))
  | atMost => .ok (.truth (a.isOrdered d (fun x y => x.isLess y || x.isSame y) b))
  | atLeast => .ok (.truth (a.isOrdered d (fun x y => y.isLess x || x.isSame y) b))
  | plus => arithmetic Double.add
  | minus => arithmetic Double.sub
  | times => arithmetic Double.mul
  | quotient => arithmetic Double.div
  | remainder => arithmetic Double.rem
  | union => do return .nodes (inOrder ((← a.toNodes) ++ (← b.toNodes)))

mutual

def Expr.eval (d : Document) (spaces : Spaces) : Expr → Focus → Except Error Value
  | .root, _ => .ok (.nodes [.row 0])
  | .context, f => .ok (.nodes [f.node])
  | .number x, _ => .ok (.number x)
  | .literal s, _ => .ok (.text s)
  | .variable q _, _ => do
    let _ ← resolve? spaces q
    .error .unknownVariable
  | .numeric e, f => do return .number ((← e.eval d spaces f).toNumber d)
  | .negated e, f => do return .number ((← e.eval d spaces f).toNumber d).neg
  | .binary .or a b, f => do
    if (← a.eval d spaces f).toTruth then return .truth true
    return .truth (← b.eval d spaces f).toTruth
  | .binary .and a b, f => do
    if !(← a.eval d spaces f).toTruth then return .truth false
    return .truth (← b.eval d spaces f).toTruth
  | .binary op a b, f => do op.run d (← a.eval d spaces f) (← b.eval d spaces f)
  | .filtered e predicate, f => do
    let ns ← (← e.eval d spaces f).toNodes
    return .nodes (← filterNodes (fun g => predicate.eval d spaces g) ns)
  | .step start axis test predicates, f => do
    let ns ← (← start.eval d spaces f).toNodes
    let test ← test.resolve spaces
    let found ← ns.mapM fun n =>
      Expr.keepAll d spaces predicates ((nodesOn d axis n).filter (test.accepts d axis))
    return .nodes (inOrder found.flatten)
  | .call q name arguments, f => do
    let vs ← Expr.evalAll d spaces arguments f
    match ← resolve? spaces q with
    | none => Function.call d f name vs
    | some _ => .error .unknownFunction

/-- The nodes that all predicates keep, one after the other. -/
def Expr.keepAll (d : Document) (spaces : Spaces) :
    List Expr → List Node → Except Error (List Node)
  | [], ns => .ok ns
  | predicate :: rest, ns => do
    Expr.keepAll d spaces rest (← filterNodes (fun g => predicate.eval d spaces g) ns)

def Expr.evalAll (d : Document) (spaces : Spaces) :
    List Expr → Focus → Except Error (List Value)
  | [], _ => .ok []
  | e :: rest, f => do return (← e.eval d spaces f) :: (← Expr.evalAll d spaces rest f)

end

def evaluate (d : Document) (spaces : Spaces) (path : String) (n : Node) : Except Error Value := do
  (← Expr.read path).eval d spaces { node := n }

end Intake.XPath
