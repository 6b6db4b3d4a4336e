import Intake.XPath.Error
import Intake.XPath.Node
import Intake.XPath.Number

/-! The values of expressions, and how a value of one kind becomes one of another. A comparison with
nodes holds if it holds for one of them. -/

namespace Intake.XPath

open Xml Number

/-- What an expression gives. -/
inductive Value where
  | nodes (ns : List Node)
  | truth (b : Bool)
  | number (x : Double)
  | text (s : String)
  deriving DecidableEq, Repr

/-- A truth value as a number. -/
def numberOfTruth (b : Bool) : Double := Double.ofInt (if b then 1 else 0)

namespace Value

/-- The text of a value; that of nodes is the text of the first one. -/
def toText (d : Document) : Value → String
  | nodes [] => ""
  | nodes (n :: _) => n.text d
  | truth b => if b then "true" else "false"
  | number x => numberText x
  | text s => s

def toNumber (d : Document) : Value → Double
  | truth b => numberOfTruth b
  | number x => x
  | v => numberOf (v.toText d)

/-- The truth of a value: of nodes, numbers and texts, whether there are any. -/
def toTruth : Value → Bool
  | nodes ns => !ns.isEmpty
  | truth b => b
  | number x => !x.isSame Double.naught && x != .nan
  | text s => !s.isEmpty

def toNodes : Value → Except Error (List Node)
  | nodes ns => .ok ns
  | _ => .error .wrongType

/-- Whether two values that are not nodes are equal, as the first of these kinds that occurs: truth
values, numbers, texts. -/
def isEqualPlain (d : Document) (a b : Value) : Bool :=
  match a, b with
  | truth _, _ => a.toTruth == b.toTruth
  | _, truth _ => a.toTruth == b.toTruth
  | number _, _ => (a.toNumber d).isSame (b.toNumber d)
  | _, number _ => (a.toNumber d).isSame (b.toNumber d)
  | _, _ => a.toText d == b.toText d

/-- Whether two values are equal, or unequal if so asked. -/
def isEqual (d : Document) (wanted : Bool) (a b : Value) : Bool :=
  match a, b with
  | nodes ns, nodes ms =>
    let texts := ms.map fun m => m.text d
    ns.any fun n => let s := n.text d; texts.any fun t => (s == t) == wanted
  | nodes _, truth t => (a.toTruth == t) == wanted
  | truth t, nodes _ => (b.toTruth == t) == wanted
  | nodes ns, v => ns.any fun n => isEqualPlain d (.text (n.text d)) v == wanted
  | v, nodes ns => ns.any fun n => isEqualPlain d v (.text (n.text d)) == wanted
  | a, b => isEqualPlain d a b == wanted

/-- The numbers for which a comparison may hold. -/
def toNumbers (d : Document) : Value → List Double
  | nodes ns => ns.map fun n => numberOf (n.text d)
  | v => [v.toNumber d]

/-- Whether a comparison of numbers holds between two values. -/
def isOrdered (d : Document) (compare : Double → Double → Bool) (a b : Value) : Bool :=
  match a, b with
  | nodes _, truth t => compare (numberOfTruth a.toTruth) (numberOfTruth t)
  | truth t, nodes _ => compare (numberOfTruth t) (numberOfTruth b.toTruth)
  | a, b => (a.toNumbers d).any fun x => (b.toNumbers d).any fun y => compare x y

end Value

end Intake.XPath
