import Intake.Xml.Doctype
import Intake.Xml.Heading
import Intake.Xml.Scope

/-! Reading the characters of a document: its declaration, its document type, and its content, which
has to be one element between comments and instructions. A text that is not well-formed, or whose
names cannot be resolved, is not read at all. -/

namespace Intake.Xml

/-- The greatest number of elements that may be nested. -/
def greatestDepth : Nat := 257

/-- What the reader of content goes by. -/
structure ReadingRules where
  entities : Entities
  attributes : List AttributeRule

namespace ReadingRules

/-- The rule for an attribute of the elements called `element`. -/
def rule? (r : ReadingRules) (element : String) (name : WrittenName) :
    Option AttributeRule :=
  r.attributes.find? fun rule => rule.element == element && rule.name == name

/-- The attributes that are added to those written in a tag. -/
def defaults (r : ReadingRules) (element : String) (written : List WrittenAttribute) :
    List WrittenAttribute :=
  r.attributes.filterMap fun rule =>
    if rule.element != element || written.any (·.name == rule.name) then none
    else rule.default.map fun value => ⟨rule.name, value, rule.isIdentifier⟩

/-- An attribute with the value that its type gives it, and what is spent then. -/
def attribute? (r : ReadingRules) (element : String) (name : WrittenName) (spent : Nat)
    (written : List Char) : Option (WrittenAttribute × Nat) :=
  let rule := r.rule? element name
  let isPlain := (rule.map AttributeRule.isPlain).getD true
  let isIdentifier := (rule.map AttributeRule.isIdentifier).getD false
  (r.entities.value? spent written).map fun (value, spent) =>
    (⟨name, String.ofList (if isPlain then value else tokenized value), isIdentifier⟩, spent)

/-- How a start tag ends. -/
inductive TagEnd where
  | opened | closed
  deriving DecidableEq, Repr

def tagEnd? : List Char → Option (TagEnd × List Char)
  | '>' :: rest => some (.opened, rest)
  | '/' :: '>' :: rest => some (.closed, rest)
  | _ => none

/-- The attributes of a start tag, reversed, up to its end. -/
def attributes? (r : ReadingRules) (element : String) :
    Nat → Nat → List WrittenAttribute → List Char →
      Option (List WrittenAttribute × TagEnd × Nat × List Char)
  | 0, _, _, _ => none
  | fuel + 1, spent, taken, s =>
    match tagEnd? (skipSpaces s) with
    | some (ending, rest) => some (taken, ending, spent, rest)
    | none => do
      let (name, s) ← writtenName? (← skipSomeSpaces? s)
      let s ← expect? "=" (skipSpaces s)
      let (written, s) ← literal? (skipSpaces s)
      let (found, spent) ← r.attribute? element name spent written
      attributes? r element fuel spent (found :: taken) s

/-- A start tag behind its opening mark: its name as written, the tag, the scope of its content and
how it ends. -/
def startTag? (r : ReadingRules) (scope : Scope) (spent : Nat) (s : List Char) :
    Option ((WrittenName × Tag × Scope × TagEnd) × Nat × List Char) := do
  let (name, s) ← writtenName? s
  let (written, ending, spent, s) ← r.attributes? name.text (s.length + 1) spent [] s
  let (tag, scope) ← resolveTag? scope name (written.reverse ++ r.defaults name.text written)
  return ((name, tag, scope, ending), spent, s)

/-- Character data up to the next mark. -/
def characters? (taken : List Char) : List Char → Option (List Char × List Char)
  | [] => some (taken.reverse, [])
  | ']' :: ']' :: '>' :: _ => none
  | c :: rest =>
    if c = '<' || c = '&' then some (taken.reverse, c :: rest)
    else if isChar c then characters? (c :: taken) rest
    else none

/-- Content up to the end of the text or to an end tag: the pieces, what is spent, and the rest.
`inside` reads the text of an entity. Each step with `fuel` takes a character; `taken` holds the pieces
so far in reverse. -/
def contentFrom? (r : ReadingRules)
    (inside : Scope → Nat → Nat → List Char → Option (List Content × Nat × List Char)) :
    Nat → Scope → Nat → Nat → List Content → List Char → Option (List Content × Nat × List Char)
  | 0, _, _, _, _, _ => none
  | fuel + 1, scope, depth, spent, taken, s =>
    match s with
    | [] => some (taken.reverse, spent, [])
    | '<' :: '/' :: _ => some (taken.reverse, spent, s)
    | '<' :: '!' :: '-' :: '-' :: rest =>
      match comment? rest with
      | some (text, rest) =>
        contentFrom? r inside fuel scope depth spent (.comment text :: taken) rest
      | none => none
    | '<' :: '!' :: '[' :: 'C' :: 'D' :: 'A' :: 'T' :: 'A' :: '[' :: rest =>
      match upTo? [']', ']', '>'] rest with
      | some (text, rest) =>
        contentFrom? r inside fuel scope depth spent (Content.addText text taken) rest
      | none => none
    | '<' :: '?' :: rest =>
      match instruction? rest with
      | some ((target, data), rest) =>
        contentFrom? r inside fuel scope depth spent (.instruction target data :: taken) rest
      | none => none
    | '<' :: rest =>
      if greatestDepth ≤ depth then none
      else
        match r.startTag? scope spent rest with
        | none => none
        | some ((_, tag, _, .closed), spent, rest) =>
          contentFrom? r inside fuel scope depth spent (.element tag [] :: taken) rest
        | some ((name, tag, inner, .opened), spent, rest) =>
          match contentFrom? r inside fuel inner (depth + 1) spent [] rest with
          | some (children, spent, '<' :: '/' :: rest) =>
            match (expect? name.text rest).bind fun rest => expect? ">" (skipSpaces rest) with
            | some rest =>
              contentFrom? r inside fuel scope depth spent (.element tag children :: taken) rest
            | none => none
          | _ => none
    | '&' :: '#' :: rest =>
      match charReference? rest with
      | some (c, rest) =>
        contentFrom? r inside fuel scope depth spent (Content.addText [c] taken) rest
      | none => none
    | '&' :: rest =>
      match entityReference? rest with
      | none => none
      | some (name, rest) =>
        match standardEntity? name, r.entities.find? name with
        | some c, _ =>
          contentFrom? r inside fuel scope depth spent (Content.addText [c] taken) rest
        | none, none =>
          if r.entities.isTolerant then
            contentFrom? r inside fuel scope depth spent (.reference "" :: taken) rest
          else none
        | none, some .external =>
          contentFrom? r inside fuel scope depth spent (.reference "" :: taken) rest
        | none, some .unparsed => none
        | none, some (.internal text) =>
          match (r.entities.spend? spent text).bind fun spent => inside scope depth spent text with
          | some (pieces, spent, []) =>
            contentFrom? r inside fuel scope depth spent
              (.reference (Content.charsOf pieces) :: taken) rest
          | _ => none
    | s =>
      match characters? [] s with
      | some (text, rest) =>
        contentFrom? r inside fuel scope depth spent (Content.addText text taken) rest
      | none => none

/-- The content that a text begins with. `levels` bounds how deep uses of entities are nested. -/
def content? (r : ReadingRules) :
    Nat → Scope → Nat → Nat → List Char → Option (List Content × Nat × List Char)
  | 0, scope, depth, spent, s =>
    r.contentFrom? (fun _ _ _ _ => none) (s.length + 1) scope depth spent [] s
  | levels + 1, scope, depth, spent, s =>
    r.contentFrom? (content? r levels) (s.length + 1) scope depth spent [] s

end ReadingRules

/-- Comments and instructions, in reverse, up to something else. -/
def outside? (taken : List Content) : Nat → List Char → Option (List Content × List Char)
  | 0, s => some (taken, s)
  | fuel + 1, s =>
    match skipSpaces s with
    | '<' :: '!' :: '-' :: '-' :: rest =>
      match comment? rest with
      | some (text, rest) => outside? (.comment text :: taken) fuel rest
      | none => none
    | '<' :: '?' :: rest =>
      match instruction? rest with
      | some ((target, data), rest) => outside? (.instruction target data :: taken) fuel rest
      | none => none
    | s => some (taken, s)

/-- The text with all line ends written as line feeds. -/
def unifyLineEnds (taken : List Char) : List Char → List Char
  | '\r' :: '\n' :: rest => unifyLineEnds ('\n' :: taken) rest
  | '\r' :: rest => unifyLineEnds ('\n' :: taken) rest
  | c :: rest => unifyLineEnds (c :: taken) rest
  | [] => taken.reverse

/-- A document type, if there is a declaration of one. -/
def doctypeOf? (s : List Char) : Option (Doctype × List Char) :=
  match expect? "<!DOCTYPE" s with
  | some rest => Doctype.read? rest
  | none => some ({}, s)

/-- The content of a document: what stands before its element, the element, and what stands behind
it. -/
structure Parts where
  before : List Content
  tag : Tag
  children : List Content
  behind : List Content
  deriving Repr

def Parts.read? (s : List Char) : Option Parts := do
  let s := unifyLineEnds [] s
  let length := s.length
  let (heading, s) ← headingOf? s
  let (before, s) ← outside? [] length s
  let (doctype, s) ← doctypeOf? s
  let (before, s) ← outside? before length s
  let isTolerant := !heading.isStandalone && (doctype.hasExternalPart || doctype.usesParameters)
  let rules : ReadingRules :=
    ⟨⟨doctype.entities, isTolerant, max 1000000 (5 * length)⟩, doctype.attributes⟩
  let s ← expect? "<" s
  let ((name, tag, scope, ending), spent, s) ← rules.startTag? [] 0 s
  let (children, s) ← match ending with
    | .closed => some ([], s)
    | .opened =>
      match rules.content? rules.entities.depth scope 1 spent s with
      | some (children, _, '<' :: '/' :: rest) =>
        ((expect? name.text rest).bind fun rest => expect? ">" (skipSpaces rest)).map (children, ·)
      | _ => none
  let (behind, s) ← outside? [] length s
  if s.isEmpty then some ⟨before.reverse, tag, children, behind.reverse⟩ else none

end Intake.Xml
