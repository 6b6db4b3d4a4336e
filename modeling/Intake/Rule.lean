import Intake.Path.Steps

/-! Mapping rules and the feeds they belong to. A rule binds a place in a document to a field of the
records that go into one table. -/

namespace Intake

/-- A text that may be missing, as it is shown inside a message. -/
def shownText (s : Option String) : String := s.getD "None"

/-- A mapping rule. -/
structure Rule where
  name : String
  targetField : String
  tableName : String
  sourcePath : Option String := none
  transformation : Option String := none
  isActive : Bool := true
  /-- Rules of a higher priority are applied first; a missing priority counts as zero. -/
  priority : Option Int := some 0
  isRequired : Bool := false
  /-- What stands in for a value that the document does not hold. -/
  defaultValue : Option String := none
  description : Option String := none
  deriving DecidableEq, Repr

namespace Rule

def shown (r : Rule) : String :=
  r.name ++ " (" ++ shownText r.sourcePath ++ " -> " ++ r.tableName ++ "." ++ r.targetField ++ ")"

/-- Whether the rule says where its value stands. -/
def hasSource (r : Rule) : Bool := r.sourcePath.any fun path => !Text.isBlankText path

/-- The path of the lines that a line rule belongs to; empty if there is none. -/
def parentPath (r : Rule) : String := Path.normalize (some (Path.parent r.sourcePath))

/-- The rank by which rules are ordered. -/
def rank (r : Rule) : Int := r.priority.getD 0

end Rule

/-- A feed through which the documents of a client arrive. -/
structure Interface where
  name : String
  /-- The tag of the kind of documents that arrive. -/
  kindTag : String
  rootElement : Option String := none
  clientId : Option Int := none
  description : Option String := none
  isActive : Bool := true
  deriving DecidableEq, Repr

end Intake
