import Intake.Query.Basic
import Intake.Settings.Mapping
import Intake.Value.Basic

/-! Finding the lines of a document: by the path that is configured for them, else by the paths at
which lines conventionally stand, else by an element that repeats under one parent. -/

namespace Intake.Query

open Xml XPath

/-- The lines that were found, and how. -/
structure LineMatch where
  nodes : List Nat := []
  discovery : Option Discovery := none
  path : Option String := none
  deriving DecidableEq, Repr

/-- Whether the lines were not where they were configured to be. -/
def LineMatch.isFallback (m : LineMatch) : Bool :=
  m.discovery == some .pattern || m.discovery == some .heuristic

/-- The local names of elements, in the order of their first occurrence. -/
def localNames (d : Document) : List String := (d.elements.map d.localName).eraseDups

def elementsNamed (d : Document) (name : String) : List Nat :=
  d.elements.filter fun i => d.localName i == name

/-- Whether there are two or more elements and all of them have the same element around them. -/
def isRepeating (d : Document) : List Nat → Bool
  | first :: second :: rest =>
    (d.elementAround? first).isSome &&
      (second :: rest).all fun i => d.elementAround? i == d.elementAround? first
  | _ => false

/-- The elements of the first local name that repeats under one parent. -/
def repeatingElements (d : Document) : List Nat :=
  (((localNames d).map (elementsNamed d)).find? (isRepeating d)).getD []

/-- The first of the conventional paths that finds elements, with those; paths that cannot be
evaluated are passed over. -/
def firstPattern (d : Document) (spaces : Spaces) (n : Node) :
    List String → Logged (Except Failure (Option (String × List Nat)))
  | [] => pure (.ok none)
  | pattern :: rest => do
    match ← elements d spaces n pattern with
    | .error (.fault fault) => return .error (.fault fault)
    | .error (.refused _) => firstPattern d spaces n rest
    | .ok [] => firstPattern d spaces n rest
    | .ok nodes => return .ok (some (pattern, nodes))

/-- The lines that are found without a path of their own; `parent` is the one that found none. -/
def fallbackLines (s : MappingSettings) (d : Document) (spaces : Spaces) (n : Node)
    (parent : String) : Logged (Except Failure LineMatch) := do
  match ← firstPattern d spaces n s.linePaths with
  | .error e => return .error e
  | .ok (some (pattern, nodes)) =>
    Logged.note .paths .warning
      ("No line nodes for '" ++ parent ++ "'; using fallback pattern '" ++ pattern ++ "'")
      [("line_path", .text parent), ("pattern", .text pattern), ("count", .whole nodes.length)]
    return .ok ⟨nodes, some .pattern, some pattern⟩
  | .ok none =>
    match repeatingElements d with
    | [] => return .ok {}
    | first :: rest =>
      let name := d.localName first
      Logged.note .paths .warning
        ("No line nodes for '" ++ parent ++ "'; guessed repeating element '" ++ name ++ "'")
        [("line_path", .text parent), ("element", .text name),
          ("count", .whole (rest.length + 1 : Nat))]
      return .ok ⟨first :: rest, some .heuristic, some name⟩

/-- The lines at the path `parent`, or those that are found instead if the settings allow it. -/
def findLines (s : MappingSettings) (d : Document) (spaces : Spaces) (n : Node)
    (parent : String) : Logged (Except Failure LineMatch) := do
  let configured ← if parent.isEmpty then pure (.ok []) else elements d spaces n parent
  match configured with
  | .error e => return .error e
  | .ok (first :: rest) => return .ok ⟨first :: rest, some .configured, some parent⟩
  | .ok [] => if s.discoversLines then fallbackLines s d spaces n parent else return .ok {}

end Intake.Query
