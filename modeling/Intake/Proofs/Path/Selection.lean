import Intake.Proofs.Path.Named
import Intake.Xml.Document

/-! What a path of names selects if every step is compared by its local name alone. This can be told
from the outline of a document, in which neither qualifiers nor namespaces occur. -/

namespace Intake

open Xml

/-- A row of a document without its qualifiers and namespaces: the local name, of an element, the row
of the parent, and the first row behind the content. -/
structure OutlineRow where
  name? : Option String
  parent : Nat
  stop : Nat
  deriving DecidableEq, Repr

/-- The outline of a document. -/
abbrev Outline := List OutlineRow

/-- The local name of an element. -/
def Xml.Kind.localName? : Kind → Option String
  | .element tag => some tag.name.localName
  | _ => none

/-- The outline of the rows of a document. -/
def Xml.Document.outline (d : Document) : Outline :=
  d.rows.toList.map fun r => ⟨r.kind.localName?, r.parent, r.stop⟩

namespace Outline

open Intake.Path

variable (o : Outline)

/-- Whether slashes lead from a row to another one: to a child, or to anything within. -/
def leads : Slash → Nat → Nat → Bool
  | .single, i, j => j != 0 && (o[j]?.map OutlineRow.parent) == some i
  | .double, i, j => i < j && (o[i]?).any fun r => j < r.stop

/-- The elements of a name to which slashes lead from one of some rows, in document order. -/
def step (is : List Nat) (slash : Slash) (name : String) : List Nat :=
  (List.range o.length).filter fun j =>
    (o[j]?.bind OutlineRow.name?) == some name && is.any fun i => o.leads slash i j

/-- The elements that steps select, from some rows on. -/
def steps (is : List Nat) (rest : List (Slash × NameTest)) : List Nat :=
  rest.foldl (fun is (slash, t) => o.step is slash t.name.text) is

end Outline

namespace Path

/-- The row that a path starts from, seen from a row. -/
def Origin.row : Origin → Nat → Nat
  | here, i => i
  | _, _ => 0

/-- What leads from there to the first step. -/
def Origin.slash : Origin → Slash
  | anywhere => .double
  | _ => .single

/-- The elements that a path of names selects from a row, by local names alone, in document order. -/
def NamePath.selection (p : NamePath) (o : Outline) (i : Nat) : List Nat :=
  o.steps (o.step [p.origin.row i] p.origin.slash p.first.name.text) p.rest

/-- Qualifiers have no part in it. -/
theorem NamePath.selection_unqualified (p : NamePath) (o : Outline) (i : Nat) :
    p.unqualified.selection o i = p.selection o i := by
  rw [selection, selection, Outline.steps, Outline.steps, unqualified, List.foldl_map]
  rfl

end Path

end Intake
