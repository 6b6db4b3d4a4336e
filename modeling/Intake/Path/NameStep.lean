import Intake.Path.Steps
import Intake.Text.Classes
import Intake.Text.Letter

/-! Name steps: steps that name an element or an attribute, with an optional qualifier in front of
the name and optional predicates behind it. A path is made independent of the sender's choice of
qualifiers by dropping them, or by comparing local names in a predicate. -/

namespace Intake.Path

/-- An optional `@`, an optional qualifier, a name, and the predicates as written. -/
structure NameStep where
  isAttribute : Bool
  qualifier : Option (List Char)
  name : List Char
  predicates : List Char
  deriving DecidableEq, Repr

namespace NameStep

/-- Whether a name can begin with `c`. -/
def isNameStart (c : Char) : Bool := c.isAlpha || c == '_'

/-- Whether a name can go on with `c`. -/
def isNameChar (c : Char) : Bool := Text.isWordChar c || c == '.' || c == '-'

/-- The longest name at the beginning of a text, and the rest. -/
def name? : List Char → Option (List Char × List Char)
  | [] => none
  | c :: rest =>
    if isNameStart c then some (c :: rest.takeWhile isNameChar, rest.dropWhile isNameChar)
    else none

/-- Whether a text is empty or stands between brackets. -/
def isPredicates : List Char → Bool
  | [] => true
  | c :: rest => c == '[' && rest.getLast? == some ']'

/-- Reads a name step that has no blanks around it. -/
def parse? (step : List Char) : Option NameStep :=
  let isAttribute := step.head? == some '@'
  let body := if isAttribute then step.drop 1 else step
  match name? body with
  | none => none
  | some (first, ':' :: rest) =>
    match name? rest with
    | none => none
    | some (name, rest) =>
      if isPredicates rest then some ⟨isAttribute, some first, name, rest⟩ else none
  | some (name, rest) => if isPredicates rest then some ⟨isAttribute, none, name, rest⟩ else none

/-- The marker of an attribute step. -/
def marker (s : NameStep) : List Char := if s.isAttribute then ['@'] else []

/-- The step without its qualifier. -/
def unqualified (s : NameStep) : List Char := s.marker ++ s.name ++ s.predicates

/-- The step with its name test replaced by a comparison of local names. -/
def byLocalName (s : NameStep) : List Char :=
  s.marker ++ "*[local-name()='".toList ++ s.name ++ "']".toList ++ s.predicates

end NameStep

/-- Whether a step names its axis in full. -/
def hasAxis : List Char → Bool
  | ':' :: ':' :: _ => true
  | _ :: rest => hasAxis rest
  | [] => false

/-- Applies a rewriting to a step that is a name step; other steps stay as they are. -/
def rewriteStep (rewrite : NameStep → List Char) (step : List Char) : List Char :=
  if step.isEmpty || hasAxis step then step
  else
    match NameStep.parse? (Text.trimmed step) with
    | some s => rewrite s
    | none => step

/-- Applies a rewriting to each name step of a path. -/
def rewriteSteps (rewrite : NameStep → List Char) (path : List Char) : List Char :=
  Text.joined ['/'] ((steps path).map (rewriteStep rewrite))

def unqualified (path : String) : String :=
  String.ofList (rewriteSteps NameStep.unqualified path.toList)

/-- The path with each name test replaced by a comparison of local names. -/
def byLocalName (path : String) : String :=
  String.ofList (rewriteSteps NameStep.byLocalName path.toList)

end Intake.Path
