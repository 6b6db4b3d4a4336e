import Intake.Xml.Scan

/-! Entities: names for text that is written once and used in many places. Text that grows beyond
all proportion to the document by being used is refused, as is an entity that uses itself. -/

namespace Intake.Xml

/-- What an entity stands for: text of its own, or a resource that is not read, or one that is not
text at all. -/
inductive Entity where
  | internal (text : List Char)
  | external
  | unparsed
  deriving DecidableEq, Repr

/-- The entities that content can refer to. -/
structure Entities where
  declared : List (String × Entity) := []
  /-- Whether names that are not declared are passed over, since not all declarations are read. -/
  isTolerant : Bool := false
  /-- The most characters that uses may add up to. -/
  limit : Nat := 1000000
  deriving Repr

namespace Entities

def find? (e : Entities) (name : String) : Option Entity := e.declared.lookup name

/-- More uses cannot be nested within each other. -/
def depth (e : Entities) : Nat := e.declared.length

/-- The fixed cost of a use. -/
def useCost : Nat := 20

/-- What is spent after one more use of a text, if that is not too much. -/
def spend? (e : Entities) (spent : Nat) (text : List Char) : Option Nat :=
  let spent := spent + text.length + useCost
  if e.limit < spent then none else some spent

/-- The text of an attribute value in which references are replaced; `inside` replaces those in the text
of an entity. White space becomes blanks where it is written in the value itself. `taken` holds the
characters so far in reverse, and each step with `fuel` takes a character. -/
def expandFrom (e : Entities) (isNested : Bool)
    (inside : Nat → List Char → Option (List Char × Nat)) :
    Nat → Nat → List Char → List Char → Option (List Char × Nat)
  | _, spent, taken, [] => some (taken.reverse, spent)
  | 0, _, _, _ => none
  | fuel + 1, spent, taken, '&' :: '#' :: rest =>
    match charReference? rest with
    | some (c, rest) => expandFrom e isNested inside fuel spent (c :: taken) rest
    | none => none
  | fuel + 1, spent, taken, '&' :: rest =>
    match entityReference? rest with
    | none => none
    | some (name, rest) =>
      match standardEntity? name with
      | some c => expandFrom e isNested inside fuel spent (c :: taken) rest
      | none =>
        match e.find? name with
        | none =>
          if e.isTolerant then expandFrom e isNested inside fuel spent taken rest else none
        | some (.internal text) =>
          match (e.spend? spent text).bind fun spent => inside spent text with
          | some (value, spent) =>
            expandFrom e isNested inside fuel spent (value.reverse ++ taken) rest
          | none => none
        | some _ => none
  | fuel + 1, spent, taken, c :: rest =>
    if c = '<' || !isChar c then none
    else
      let c := if isSpace c && !isNested then ' ' else c
      expandFrom e isNested inside fuel spent (c :: taken) rest

/-- A whole text in which references are replaced. `levels` bounds how deep uses are nested. -/
def expand (e : Entities) : Nat → Bool → Nat → List Char → Option (List Char × Nat)
  | 0, isNested, spent, text =>
    e.expandFrom isNested (fun _ _ => none) (text.length + 1) spent [] text
  | levels + 1, isNested, spent, text =>
    e.expandFrom isNested (expand e levels true) (text.length + 1) spent [] text

/-- The text of an attribute value as it is written between its marks, and what is spent then. -/
def value? (e : Entities) (spent : Nat) (written : List Char) : Option (List Char × Nat) :=
  e.expand e.depth false spent written

end Entities

/-- A value without blanks at its ends and with single blanks inside, as values of other types than
plain text are given. -/
def tokenized (value : List Char) : List Char :=
  Text.joined [' '] ((Text.pieces ' ' value).filter (!List.isEmpty ·))

end Intake.Xml
