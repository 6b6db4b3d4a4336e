import Intake.Fault
import Intake.Log.Basic
import Intake.Path.NameStep
import Intake.XPath.Evaluation

/-! Queries that do not depend on the sender's choice of qualifiers. Wherever in the document a
qualifier is declared, its first declaration counts; the first default namespace goes by a qualifier of
its own, unless the document uses that qualifier itself. A path is tried as written, then without
qualifiers, then with local names compared in predicates; the first attempt that finds something
counts. A path is refused only if none of these can be evaluated. -/

namespace Intake.Query

open Xml XPath

/-- The table with one more namespace, unless its qualifier is known already. -/
def addSpace (spaces : Spaces) (qualifier space : String) : Spaces :=
  if (spaces.lookup qualifier).isSome then spaces else spaces ++ [(qualifier, space)]

/-- The declarations of all elements, in document order. -/
def declarations (d : Document) : List Declaration :=
  d.elements.flatMap fun i => ((d.tag? i).map Tag.declarations).getD []

/-- The first declaration of each qualifier. -/
def qualified (ds : List Declaration) : Spaces :=
  ds.foldl (fun spaces d =>
    match d.qualifier with
    | some q => addSpace spaces q d.space
    | none => spaces) []

/-- The first default namespace. -/
def defaultSpace? (ds : List Declaration) : Option String :=
  ds.findSome? fun d => if d.qualifier.isNone && !d.space.isEmpty then some d.space else none

/-- The namespaces of a document, the default one by the qualifier `defaultQualifier`. -/
def spacesOf (defaultQualifier : String) (d : Document) : Spaces :=
  let ds := declarations d
  match defaultSpace? ds with
  | some space => addSpace (qualified ds) defaultQualifier space
  | none => qualified ds

/-- Why a path is refused: it is blank, or the first attempt at it failed. -/
structure Refusal where
  path : String
  cause : Option XPath.Error
  deriving DecidableEq, Repr

def Refusal.message (r : Refusal) : String :=
  match r.cause with
  | none => "Path is empty"
  | some e => "Cannot evaluate path '" ++ r.path ++ "': " ++ e.message

/-- Why a query gives nothing. -/
inductive Failure where
  | refused (refusal : Refusal)
  | fault (fault : Fault)
  deriving DecidableEq, Repr

/-- The attempts at a path, each once. -/
def candidates (path : String) : List String :=
  [path, Path.unqualified path, Path.byLocalName path].eraseDups

/-- Whether a value is a finding: some node, some text, or anything that is neither. -/
def isFinding : XPath.Value → Bool
  | .nodes ns => !ns.isEmpty
  | .text s => !s.isEmpty
  | _ => true

/-- A value without the document itself, which is no finding. -/
def withoutDocument : XPath.Value → XPath.Value
  | .nodes ns => .nodes (ns.filter (· != .row 0))
  | v => v

/-- What makes a table of namespaces unusable. -/
def spacesFault? (spaces : Spaces) : Option Fault :=
  spaces.findSome? fun (qualifier, space) =>
    if qualifier.isEmpty then some .emptyQualifier
    else if space.isEmpty then some .emptySpace
    else if qualifier.toList.all isChar && space.toList.all isChar then none
    else some .strangeCharacters

def attempt (d : Document) (spaces : Spaces) (n : Node) (candidate : String) :
    Except Fault (Except XPath.Error XPath.Value) :=
  match spacesFault? spaces with
  | some fault => .error fault
  | none =>
    if candidate.toList.all isChar then
      .ok ((XPath.evaluate d spaces candidate n).map withoutDocument)
    else .error .strangeCharacters

/-- The first finding among the attempts at `path` that are left; `failed` is the first failed
attempt so far, and `isEvaluated` says whether any attempt succeeded. -/
def search (d : Document) (spaces : Spaces) (n : Node) (path : String) :
    Option XPath.Error → Bool → List String → Logged (Except Failure (Option XPath.Value))
  | failed, isEvaluated, [] =>
    match failed, isEvaluated with
    | some e, false => pure (.error (.refused ⟨path, some e⟩))
    | _, _ => pure (.ok none)
  | failed, isEvaluated, candidate :: rest =>
    match attempt d spaces n candidate with
    | .error fault => pure (.error (.fault fault))
    | .ok (.error e) => search d spaces n path (failed.or (some e)) isEvaluated rest
    | .ok (.ok v) =>
      if isFinding v then do
        if candidate != path then
          Logged.note .paths .debug ("Path '" ++ path ++ "' resolved as '" ++ candidate ++ "'")
        return .ok (some v)
      else search d spaces n path failed true rest

/-- What a path finds, if anything. -/
def find (d : Document) (spaces : Spaces) (n : Node) (path : String) :
    Logged (Except Failure (Option XPath.Value)) :=
  if Text.isBlankText path then pure (.error (.refused ⟨path, none⟩))
  else search d spaces n path none false (candidates (Text.trim path))

/-- The text of a node that was found; a namespace is shown with its qualifier. -/
def itemText (d : Document) (n : Node) : String :=
  match n.space? d with
  | some s =>
    "(" ++ ((s.qualifier.map Text.quote).getD "None") ++ ", " ++ Text.quote s.space ++ ")"
  | none => n.text d

/-- The text of a number: whole numbers have no point. -/
def numberText (x : Number.Double) : String :=
  match x.whole? with
  | some n => toString n
  | none => x.text

/-- The text of a finding: of nodes, the text of the first one. -/
def textOf (d : Document) : XPath.Value → Option String
  | .nodes ns => ns.head?.map (itemText d)
  | .truth b => some (if b then "true" else "false")
  | .number x => some (numberText x)
  | .text s => if s.isEmpty then none else some s

def text (d : Document) (spaces : Spaces) (n : Node) (path : String) :
    Logged (Except Failure (Option String)) := do
  return (← find d spaces n path).map fun v => v.bind (textOf d)

/-- The elements among nodes. -/
def elementsAmong (d : Document) (ns : List Node) : List Nat :=
  ns.filterMap fun n =>
    match n with
    | .row i => if d.isElement i then some i else none
    | _ => none

/-- The elements that a path finds, in document order. -/
def elements (d : Document) (spaces : Spaces) (n : Node) (path : String) :
    Logged (Except Failure (List Nat)) := do
  match ← find d spaces n path with
  | .error e => return .error e
  | .ok none => return .ok []
  | .ok (some (.nodes ns)) => return .ok (elementsAmong d ns)
  | .ok (some _) =>
    Logged.note .paths .debug ("Path '" ++ path ++ "' produced a scalar, not a node-set")
    return .ok []

end Intake.Query
