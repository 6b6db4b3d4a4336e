import Intake.Text.Classes
import Intake.Text.Split

/-! Files of variables: lines `NAME=value`, with `export` in front if one likes. Values may stand
between quotation marks, and then go over several lines; comments begin with `#`. A reference
`$\x7bNAME\x7d`, or with a stand-in `$\x7bNAME:-text\x7d`, gives way to the variable's value. Lines
that cannot be read are passed over. -/

namespace Intake.Dotenv

def isLineEnd (c : Char) : Bool := c == '\n' || c == '\r'

/-- Whether a character is a blank within a line. -/
def isInnerBlank (c : Char) : Bool := Text.isBlank c && !isLineEnd c

/-- What is left behind the blanks within a line. -/
def skipBlanks (s : List Char) : List Char := s.dropWhile isInnerBlank

/-- What is left behind `export`, which must be followed by a blank. -/
def skipExport (s : List Char) : List Char :=
  match Text.dropStart? "export".toList s with
  | some rest => if skipBlanks rest == rest then s else skipBlanks rest
  | none => s

/-- Whether a name without quotation marks can hold a character. -/
def isNameChar (c : Char) : Bool := !(c == '=' || c == '#' || Text.isBlank c)

/-- The name at the beginning of a text, and the rest. A comment has no name. -/
def name? (s : List Char) : Option (Option (List Char) × List Char) :=
  match s with
  | '#' :: _ => some (none, s)
  | '\'' :: rest =>
    match rest.takeWhile (· != '\''), rest.dropWhile (· != '\'') with
    | c :: name, _ :: after => some (some (c :: name), after)
    | _, _ => none
  | _ =>
    match s.takeWhile isNameChar with
    | [] => none
    | name => some (some name, s.dropWhile isNameChar)

/-- The text up to the first mark that no backslash stands before, and what follows that mark;
`before` is the character in front. -/
def untilMark? (mark before : Char) : List Char → Option (List Char × List Char)
  | [] => none
  | c :: rest =>
    if c = mark && before != '\\' then some ([], rest)
    else (untilMark? mark c rest).map fun (body, after) => (c :: body, after)

/-- The text up to the last mark, and what follows that mark. -/
def untilLastMark? (mark : Char) : List Char → Option (List Char × List Char)
  | [] => none
  | c :: rest =>
    match untilLastMark? mark rest with
    | some (body, after) => some (c :: body, after)
    | none => if c = mark then some ([], rest) else none

/-- The character that a letter behind a backslash stands for. -/
def escaped? (mark c : Char) : Option Char :=
  if c = '\\' || c = '\'' then some c
  else if mark = '\'' then none
  else
    match c with
    | '"' => some '"'
    | 'a' => some '\x07'
    | 'b' => some '\x08'
    | 'f' => some '\x0c'
    | 'n' => some '\n'
    | 'r' => some '\r'
    | 't' => some '\t'
    | 'v' => some '\x0b'
    | _ => none

/-- A quoted text with its escapes resolved. -/
def unescaped (mark : Char) : List Char → List Char
  | '\\' :: c :: rest =>
    match escaped? mark c with
    | some d => d :: unescaped mark rest
    | none => '\\' :: unescaped mark (c :: rest)
  | c :: rest => c :: unescaped mark rest
  | [] => []
termination_by s => s.length

/-- The text without a comment, which begins behind a blank. -/
def withoutComment : List Char → List Char
  | [] => []
  | c :: rest =>
    let behind := (c :: rest).dropWhile Text.isBlank
    if Text.isBlank c && behind.head? == some '#' then [] else c :: withoutComment rest

/-- The value at the beginning of a text, and the rest. -/
def value? (s : List Char) : Option (List Char × List Char) :=
  match s with
  | [] => some ([], [])
  | c :: rest =>
    if c = '\'' || c = '"' then
      ((untilMark? c c rest).or (untilLastMark? c rest)).map fun (body, after) =>
        (unescaped c body, after)
    else
      let line := s.takeWhile fun c => !isLineEnd c
      some (Text.dropEnd Text.isBlank (withoutComment line), s.dropWhile fun c => !isLineEnd c)

/-- What is left behind the end of a line, a comment in front of it passed over. -/
def endLine? (s : List Char) : Option (List Char) :=
  let s := match skipBlanks s with
    | '#' :: rest => rest.dropWhile fun c => !isLineEnd c
    | _ => s
  match skipBlanks s with
  | [] => some []
  | '\r' :: '\n' :: rest => some rest
  | '\r' :: rest => some rest
  | '\n' :: rest => some rest
  | _ => none

/-- What is left behind the line that is being read. -/
def skipLine (s : List Char) : List Char := (s.dropWhile fun c => !isLineEnd c).drop 1

/-- One assignment: its name, its value if it has one, and the rest of the text. If it cannot be
read only the rest of the text comes back. -/
def assignment (s : List Char) : Option (List Char × Option (List Char)) × List Char :=
  let s := skipExport s
  match name? s with
  | none => (none, skipLine s)
  | some (name, rest) =>
    let (value, rest) : Option (Option (List Char)) × List Char := match skipBlanks rest with
      | '=' :: after =>
        match value? (skipBlanks after) with
        | some (value, rest) => (some (some value), rest)
        | none => (none, skipBlanks after)
      | rest => (some none, rest)
    match value, endLine? rest with
    | some value, some rest => (name.map fun name => (name, value), rest)
    | _, _ => (none, skipLine rest)

/-- The assignments of a text, at most `fuel` of them; each takes at least one character. -/
def assignmentsFrom : Nat → List Char → List (List Char × Option (List Char))
  | 0, _ => []
  | fuel + 1, s =>
    match s.dropWhile Text.isBlank with
    | [] => []
    | s =>
      match assignment s with
      | (some a, rest) => a :: assignmentsFrom fuel rest
      | (none, rest) => assignmentsFrom fuel rest

def assignments (s : List Char) : List (List Char × Option (List Char)) :=
  assignmentsFrom s.length s

/-- A reference at the beginning of a text: its name, its stand-in, and the rest. -/
def reference? : List Char → Option (List Char × Option (List Char) × List Char)
  | '$' :: '\x7b' :: rest =>
    let name := rest.takeWhile fun c => c != '\x7d' && c != ':'
    match rest.dropWhile fun c => c != '\x7d' && c != ':' with
    | '\x7d' :: after => some (name, none, after)
    | ':' :: '-' :: more =>
      match more.dropWhile (· != '\x7d') with
      | _ :: after => some (name, some (more.takeWhile (· != '\x7d')), after)
      | [] => none
    | _ => none
  | _ => none

/-- A text with its references resolved, at most `fuel` characters and references of it. -/
def resolvedFrom (known : String → Option String) : Nat → List Char → List Char
  | 0, s => s
  | _, [] => []
  | fuel + 1, c :: rest =>
    match reference? (c :: rest) with
    | some (name, other, after) =>
      let value := (known (String.ofList name)).getD (String.ofList (other.getD []))
      value.toList ++ resolvedFrom known fuel after
    | none => c :: resolvedFrom known fuel rest

/-- A text with its references resolved. -/
def resolved (known : String → Option String) (s : List Char) : String :=
  String.ofList (resolvedFrom known s.length s)

/-- The variables with one more assignment; a later one of the same name takes the place of an
earlier one. -/
def assign (vars : List (String × Option String)) (name : String) (value : Option String) :
    List (String × Option String) :=
  if vars.any (·.1 == name) then
    vars.map fun v => if v.1 = name then (name, value) else v
  else vars ++ [(name, value)]

/-- The variables of a file. References look among the variables before them and then in the
environment `env`. -/
def read (env : List (String × String)) (s : String) : List (String × Option String) :=
  (assignments s.toList).foldl (fun known (name, value) =>
    let lookUp (n : String) : Option String :=
      match known.lookup n with
      | some value => some (value.getD "")
      | none => env.lookup n
    assign known (String.ofList name) (value.map (resolved lookUp))) []

end Intake.Dotenv
