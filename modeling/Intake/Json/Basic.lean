import Intake.Number.Double

/-! JSON values. The members of an object keep the order in which their names first appear, and the
last member of a name counts. Whole numbers and other numbers are told apart. -/

namespace Intake

/-- A JSON value. -/
inductive Json where
  | null
  | truth (b : Bool)
  | whole (n : Int)
  | real (x : Number.Double)
  | text (s : String)
  | list (items : List Json)
  | object (members : List (String × Json))
  deriving Repr, Inhabited

namespace Json

def ofText? : Option String → Json
  | some s => text s
  | none => null

def ofWhole? : Option Int → Json
  | some n => whole n
  | none => null

/-- The members of an object with one more; a member of the same name is replaced. -/
def withMember (members : List (String × Json)) (name : String) (value : Json) :
    List (String × Json) :=
  if members.any (·.1 == name) then
    members.map fun m => if m.1 == name then (name, value) else m
  else members ++ [(name, value)]

def member? (name : String) : Json → Option Json
  | object members => members.lookup name
  | _ => none

/-- Whether a value is empty in the widest sense: null, false, zero, or without content. -/
def isBlank : Json → Bool
  | null => true
  | truth b => !b
  | whole n => n == 0
  | real (.finite _ mantissa _) => mantissa == 0
  | real _ => false
  | text s => s.isEmpty
  | list items => items.isEmpty
  | object members => members.isEmpty

/-- The word for the shape of a value. -/
def shapeName : Json → String
  | null => "NoneType"
  | truth _ => "bool"
  | whole _ => "int"
  | real _ => "float"
  | text _ => "str"
  | list _ => "list"
  | object _ => "dict"

end Json

end Intake
