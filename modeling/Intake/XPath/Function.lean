import Intake.XPath.Value

/-! The functions that paths can call. -/

namespace Intake.XPath

open Xml Number

/-- Where an expression is evaluated: the node, its position among the nodes it came with, and how
many those are. -/
structure Focus where
  node : Node
  position : Nat := 1
  size : Nat := 1
  deriving DecidableEq, Repr

/-- A text without white space at its ends and with single blanks inside. -/
def normalizeSpace (s : String) : String :=
  let step (words : List (List Char)) (c : Char) : List (List Char) :=
    if isSpace c then [] :: words
    else
      match words with
      | word :: rest => (c :: word) :: rest
      | [] => [[c]]
  let words := (s.toList.foldl step [[]]).filter (!List.isEmpty ·)
  String.ofList (Text.joined [' '] (words.reverse.map List.reverse))

/-- What stands before and behind the first occurrence of `part` in a text. -/
def around? (part : List Char) (before : List Char) : List Char → Option (List Char × List Char)
  | [] => if part.isEmpty then some (before.reverse, []) else none
  | c :: rest =>
    match Text.dropStart? part (c :: rest) with
    | some after => some (before.reverse, after)
    | none => around? part (c :: before) rest

/-- The nearest whole number; a half goes up. -/
def rounded (x : Double) : Double :=
  let half := Double.nearest false 1 2
  let low := x.floor
  match x with
  | .finite negative .. =>
    if !x.isLess half.neg && x.isLess half then .finite negative 0 (-1074)
    else if (x.sub low).isLess half then low else low.add (Double.ofInt 1)
  | x => x

/-- The greatest number that positions in a text reach. -/
def positionLimit : Int := 2147483647

/-- A rounded number as a position from 1 on; what is no number is beyond all positions if
`missing` says so. -/
def position (x : Double) (missing : Int) : Int :=
  match rounded x with
  | .nan => missing
  | .infinite negative => if negative then 1 else positionLimit
  | y => max 1 (min (y.whole?.getD 1) positionLimit)

/-- The part of a text from a position on, and of a length if one is given. -/
def substring (s : String) (start : Double) (length : Option Double) : String :=
  let first := position start positionLimit
  let behind := match length with
    | none => positionLimit
    | some n => position ((rounded start).add (rounded n)) 1
  String.ofList ((s.toList.drop (first - 1).toNat).take (behind - first).toNat)

/-- Replaces the characters of `old` by those at the same places in `new`, and drops those that
have none. -/
def translated (old new s : List Char) : List Char :=
  s.filterMap fun c =>
    match old.findIdx? (· == c) with
    | none => some c
    | some i => new[i]?

/-- The language that the element at or around a row is declared to be in. -/
def language? (d : Document) (i : Nat) : Option String :=
  (i :: d.ancestors i).findSome? fun j =>
    ((d.attributes j).find? fun a =>
      a.name.space == some xmlSpace && a.name.localName == "lang").map Attribute.value

/-- Whether a language is another one or a variety of it. -/
def isLanguage (wanted language : String) : Bool :=
  let wanted := wanted.toLower.toList
  match Text.dropStart? wanted language.toLower.toList with
  | some [] => true
  | some (c :: _) => c == '-'
  | none => false

/-- The elements whose identifiers are among the words of a text. -/
def identified (d : Document) (s : String) : List Node :=
  let words := (Text.pieces ' ' (normalizeSpace s).toList).map String.ofList
  (d.elements.filter fun i =>
    (d.attributes i).any fun a => a.isIdentifier && words.contains a.value).map .row

/-- The text of an optional argument, or of the node in focus. -/
def textOr (d : Document) (f : Focus) : List Value → String
  | [] => f.node.text d
  | v :: _ => v.toText d

/-- The first node of an optional argument, or the node in focus. -/
def nodeOr (f : Focus) : List Value → Except Error (Option Node)
  | [] => .ok (some f.node)
  | v :: _ => v.toNodes.map List.head?

/-- A function and how many arguments it takes at least and, if there is a limit, at most. -/
structure Function where
  least : Nat
  most : Option Nat
  run : Document → Focus → List Value → Except Error Value

namespace Function

/-- A function of exactly one text. -/
def ofText (f : String → Value) : Function := ⟨1, some 1, fun d _ vs =>
  match vs with
  | v :: _ => .ok (f (v.toText d))
  | [] => .error .wrongArity⟩

/-- A function of exactly two texts. -/
def ofTexts (f : String → String → Value) : Function := ⟨2, some 2, fun d _ vs =>
  match vs with
  | a :: b :: _ => .ok (f (a.toText d) (b.toText d))
  | _ => .error .wrongArity⟩

/-- A function of exactly one number. -/
def ofNumber (f : Double → Double) : Function := ⟨1, some 1, fun d _ vs =>
  match vs with
  | v :: _ => .ok (.number (f (v.toNumber d)))
  | [] => .error .wrongArity⟩

/-- A function of the truth of exactly one value. -/
def ofTruth (f : Bool → Bool) : Function := ⟨1, some 1, fun _ _ vs =>
  match vs with
  | v :: _ => .ok (.truth (f v.toTruth))
  | [] => .error .wrongArity⟩

/-- A function of exactly one set of nodes. -/
def ofNodes (f : Document → List Node → Value) : Function := ⟨1, some 1, fun d _ vs =>
  match vs with
  | v :: _ => v.toNodes.map (f d)
  | [] => .error .wrongArity⟩

/-- A function of a node, the one in focus if none is given. -/
def ofNode (f : Document → Node → String) : Function := ⟨0, some 1, fun d focus vs =>
  (nodeOr focus vs).map fun n => .text ((n.map (f d)).getD "")⟩

/-- A function of a text, that of the node in focus if none is given. -/
def ofTextOr (f : String → Value) : Function := ⟨0, some 1, fun d focus vs =>
  .ok (f (textOr d focus vs))⟩

/-- A value that depends on the focus alone. -/
def ofFocus (f : Focus → Value) : Function := ⟨0, some 0, fun _ focus _ => .ok (f focus)⟩

/-- The functions by name. -/
def all : List (String × Function) :=
  [("last", ofFocus fun f => .number (Double.ofInt f.size)),
    ("position", ofFocus fun f => .number (Double.ofInt f.position)),
    ("count", ofNodes fun _ ns => .number (Double.ofInt ns.length)),
    ("id", ⟨1, some 1, fun d _ vs =>
      match vs with
      | .nodes ns :: _ => .ok (.nodes (inOrder (ns.flatMap fun n => identified d (n.text d))))
      | v :: _ => .ok (.nodes (identified d (v.toText d)))
      | [] => .error .wrongArity⟩),
    ("local-name", ofNode fun d n => n.localName d),
    ("namespace-uri", ofNode fun d n => n.nameSpace d),
    ("name", ofNode fun d n => n.writtenName d),
    ("string", ofTextOr .text),
    ("concat", ⟨2, none, fun d _ vs =>
      .ok (.text (Text.join "" (vs.map fun v => v.toText d)))⟩),
    ("starts-with", ofTexts fun s t => .truth (Text.dropStart? t.toList s.toList).isSome),
    ("contains", ofTexts fun s t => .truth (around? t.toList [] s.toList).isSome),
    ("substring-before", ofTexts fun s t =>
      .text (String.ofList (((around? t.toList [] s.toList).map Prod.fst).getD []))),
    ("substring-after", ofTexts fun s t =>
      .text (String.ofList (((around? t.toList [] s.toList).map Prod.snd).getD []))),
    ("substring", ⟨2, some 3, fun d _ vs =>
      match vs with
      | s :: start :: rest => .ok (.text (substring (s.toText d) (start.toNumber d)
          (rest.head?.map fun v => v.toNumber d)))
      | _ => .error .wrongArity⟩),
    ("string-length", ofTextOr fun s => .number (Double.ofInt s.length)),
    ("normalize-space", ofTextOr fun s => .text (normalizeSpace s)),
    ("translate", ⟨3, some 3, fun d _ vs =>
      match vs with
      | s :: old :: new :: _ => .ok (.text (String.ofList
          (translated (old.toText d).toList (new.toText d).toList (s.toText d).toList)))
      | _ => .error .wrongArity⟩),
    ("boolean", ofTruth id), ("not", ofTruth not),
    ("true", ofFocus fun _ => .truth true), ("false", ofFocus fun _ => .truth false),
    ("lang", ⟨1, some 1, fun d f vs =>
      match vs with
      | v :: _ => .ok (.truth (((language? d f.node.owner).map
          (isLanguage (v.toText d))).getD false))
      | [] => .error .wrongArity⟩),
    ("number", ⟨0, some 1, fun d f vs =>
      match vs with
      | v :: _ => .ok (.number (v.toNumber d))
      | [] => .ok (.number (numberOf (f.node.text d)))⟩),
    ("sum", ofNodes fun d ns => .number (ns.foldl (fun x n => x.add (numberOf (n.text d)))
      Double.naught)),
    ("floor", ofNumber Double.floor), ("ceiling", ofNumber Double.ceiling),
    ("round", ofNumber rounded)]

/-- Calls the function of a name. -/
def call (d : Document) (f : Focus) (name : String) (vs : List Value) : Except Error Value :=
  match all.lookup name with
  | none => .error .unknownFunction
  | some fn =>
    let tooMany := match fn.most with
      | some most => most < vs.length
      | none => false
    if vs.length < fn.least || tooMany then .error .wrongArity else fn.run d f vs

end Function

end Intake.XPath
