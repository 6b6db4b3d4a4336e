import Intake.Text.Classes
import Intake.Text.Split

/-! The location steps of a path query. A slash separates steps unless it stands inside a string
literal, a predicate or parentheses. An empty first step marks an absolute path and an empty inner
step the descendant axis, so the steps joined by slashes give the path back. A path has a normal form
without outer blanks and closing slashes, a path above it, of the nodes that its last step is taken
from, and can be written relative to those nodes. -/

namespace Intake.Path

/-- Where a scan of a path stands: the mark of the literal that is open, and how many brackets and
parentheses are. Unbalanced closing ones make the depth negative. -/
structure Scan where
  literal : Option Char
  depth : Int
  deriving DecidableEq, Repr

namespace Scan

def start : Scan := ⟨none, 0⟩

def next (s : Scan) (c : Char) : Scan :=
  match s.literal with
  | some mark => if c = mark then { s with literal := none } else s
  | none =>
    if c = '\'' || c = '"' then { s with literal := some c }
    else if c = '[' || c = '(' then { s with depth := s.depth + 1 }
    else if c = ']' || c = ')' then { s with depth := s.depth - 1 }
    else s

/-- Whether a slash here would separate two steps. -/
def isOpen (s : Scan) : Bool := s.literal.isNone && s.depth == 0

def through (s : Scan) (path : List Char) : Scan := path.foldl next s

end Scan

/-- The steps of what is left of a path, from a given scan. -/
def stepsFrom (s : Scan) : List Char → List (List Char)
  | [] => [[]]
  | c :: rest =>
    if c = '/' && s.isOpen then [] :: stepsFrom s rest
    else Text.consHead c (stepsFrom (s.next c) rest)

def steps (path : List Char) : List (List Char) := stepsFrom .start path

/-- The path without blanks around it and without slashes at its end; the two paths of slashes
alone stay. -/
def normalized (path : List Char) : List Char :=
  let path := Text.trimmed path
  if path = ['/'] || path = ['/', '/'] then path else Text.dropEnd (· == '/') path

/-- The steps without the empty ones at the end. -/
def withoutDangling (steps : List (List Char)) : List (List Char) :=
  (steps.reverse.dropWhile List.isEmpty).reverse

/-- The path without its last step; empty if no step with a text is left. -/
def parentOf (path : List Char) : List Char :=
  Text.joined ['/'] (withoutDangling (steps (normalized path)).dropLast)

/-- The path as it is written from a node that `ancestor` selects: what follows the ancestor, a
point for the ancestor itself, or the last step of a path that is not below it. -/
def relativeTo (ancestor path : List Char) : List Char :=
  let path := normalized path
  let ancestor := normalized ancestor
  if ancestor.isEmpty then path
  else if path = ancestor then ['.']
  else
    match Text.dropStart? (ancestor ++ ['/']) path with
    | some ('/' :: rest) => '.' :: '/' :: '/' :: rest
    | some rest => rest
    | none => (steps path).getLast?.getD []

/-- The normal form of a path that may be missing. -/
def normalize (path : Option String) : String :=
  String.ofList (normalized (path.getD "").toList)

/-- The path above one that may be missing. -/
def parent (path : Option String) : String :=
  String.ofList (parentOf (path.getD "").toList)

/-- A path that may be missing, written from a node that `ancestor` selects. -/
def relative (path ancestor : Option String) : String :=
  String.ofList (relativeTo (ancestor.getD "").toList (path.getD "").toList)

end Intake.Path
