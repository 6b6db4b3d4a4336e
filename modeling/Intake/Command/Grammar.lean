import Intake.Number.Reader
import Intake.Text.Quoted

/-! The words of a command line. A word that begins with a dash is a switch, and other words are
taken in turn by the arguments that have places. A switch may be cut short as long as it can be told
from the others, and its value is the next word or stands behind an equals sign. Behind a word of
two dashes there are no more switches. -/

namespace Intake.Command

/-- How many words an argument takes. -/
inductive Arity where
  | one | optional | many
  deriving DecidableEq, Repr

/-- An argument that has a place. -/
structure Place where
  name : String
  arity : Arity := .one
  help : String := ""
  deriving DecidableEq, Repr

/-- What a switch is followed by. -/
inductive Follower where
  | nothing | text | whole
  deriving DecidableEq, Repr

/-- A switch. -/
structure Switch where
  name : String
  follower : Follower := .nothing
  isRequired : Bool := false
  help : String := ""
  deriving DecidableEq, Repr

/-- The arguments of a command. -/
structure Grammar where
  places : List Place := []
  switches : List Switch := []
  deriving DecidableEq, Repr

/-- Why words are not understood. -/
inductive Complaint where
  | ambiguous (word : String) (switches : List Switch)
  | noValue (switch : Switch)
  | surplusValue (switch : Switch) (value : String)
  | notWhole (switch : Switch) (value : String)
  | missing (names : List String)
  | surplus (words : List String)
  deriving DecidableEq, Repr

def Complaint.message : Complaint → String
  | ambiguous word switches =>
    "ambiguous option: " ++ word ++ " could match " ++ Text.join ", " (switches.map Switch.name)
  | noValue switch => "argument " ++ switch.name ++ ": expected one argument"
  | surplusValue switch value =>
    "argument " ++ switch.name ++ ": ignored explicit argument " ++ Text.quote value
  | notWhole switch value =>
    "argument " ++ switch.name ++ ": invalid int value: " ++ Text.quote value
  | missing names => "the following arguments are required: " ++ Text.join ", " names
  | surplus words => "unrecognized arguments: " ++ Text.join " " words

/-- A word as it is understood: one for a place, two dashes, a switch with the value behind its
equals sign, or a switch that is not known. -/
inductive Word where
  | plain (text : String)
  | dashes
  | known (text : String) (switch : Switch) (value : Option String)
  | unknown (text : String)
  deriving DecidableEq, Repr

namespace Word

def text : Word → String
  | plain s => s
  | dashes => "--"
  | known s _ _ => s
  | unknown s => s

def isDashes (w : Word) : Bool := w == dashes

def isSwitch : Word → Bool
  | known _ _ _ => true
  | unknown _ => true
  | _ => false

end Word

/-- Whether a word is a negative number. -/
def isNegative (s : List Char) : Bool :=
  match s with
  | '-' :: rest =>
    match Text.cut '.' rest with
    | (digits, none) => !digits.isEmpty && digits.all Text.isDecimalDigit
    | (whole, some places) =>
      !places.isEmpty && whole.all Text.isDecimalDigit && places.all Text.isDecimalDigit
  | _ => false

/-- Understands a word that is not two dashes. -/
def Grammar.readWord (g : Grammar) (s : String) : Except Complaint Word :=
  let chars := s.toList
  let exact (name : List Char) : Option Switch :=
    g.switches.find? (·.name == String.ofList name)
  match chars with
  | '-' :: c :: _ =>
    let (name, value) := Text.cut '=' chars
    let value := value.map String.ofList
    match exact chars, exact name with
    | some switch, _ => .ok (.known s switch none)
    | none, some switch => .ok (.known s switch value)
    | none, none =>
      let isMeant (switch : Switch) : Bool :=
        c == '-' && (Text.dropStart? name switch.name.toList).isSome
      match g.switches.filter isMeant with
      | [switch] => .ok (.known s switch value)
      | [] =>
        if isNegative chars || chars.contains ' ' then .ok (.plain s) else .ok (.unknown s)
      | switches => .error (.ambiguous s switches)
  | _ => .ok (.plain s)

def Grammar.readWords (g : Grammar) : List String → Except Complaint (List Word)
  | [] => .ok []
  | s :: rest =>
    if s = "--" then .ok (.dashes :: rest.map .plain)
    else do return (← g.readWord s) :: (← g.readWords rest)

/-- The words that an argument with a place takes from the front, and those behind them. -/
def Arity.take : Arity → List Word → Option (List Word × List Word)
  | one, ws =>
    let (dashes, rest) := ws.span Word.isDashes
    match rest with
    | .plain s :: rest =>
      let (more, rest) := rest.span Word.isDashes
      some (dashes ++ .plain s :: more, rest)
    | _ => none
  | optional, ws =>
    let (dashes, rest) := ws.span Word.isDashes
    match rest with
    | .plain s :: rest =>
      let (more, rest) := rest.span Word.isDashes
      some (dashes ++ .plain s :: more, rest)
    | _ => some (dashes, rest)
  | many, ws => some (ws.span fun w => !w.isSwitch)

/-- What the words of a command line say. -/
structure Reading where
  /-- The words that the arguments with places took. -/
  places : List (String × List String) := []
  /-- The switches and the words behind them, the last one first. -/
  switches : List (String × String) := []
  /-- The words that nothing took. -/
  surplus : List String := []
  deriving DecidableEq, Repr

namespace Reading

def words (r : Reading) (name : String) : List String := (r.places.lookup name).getD []

def word? (r : Reading) (name : String) : Option String := (r.words name).head?

def has (r : Reading) (name : String) : Bool := (r.switches.lookup name).isSome

/-- The whole number behind a switch. -/
def whole? (r : Reading) (name : String) : Option Int :=
  (r.switches.lookup name).bind fun s => Number.count? s.toList

end Reading

/-- Has arguments with places take words, as many of these arguments as can. -/
def takePlaces (r : Reading) : List Place → List Word → Reading × List Place × List Word
  | [], ws => (r, [], ws)
  | p :: ps, ws =>
    match p.arity.take ws with
    | none => (r, p :: ps, ws)
    | some (taken, rest) =>
      let texts := (taken.map Word.text).erase "--"
      takePlaces { r with places := r.places ++ [(p.name, texts)] } ps rest

/-- Takes the value of a switch, and what stands behind it. -/
def takeValue (r : Reading) (switch : Switch) (value : Option String) (rest : List Word) :
    Except Complaint (Reading × List Word) := do
  let keep (value : String) : Reading := { r with switches := (switch.name, value) :: r.switches }
  match switch.follower, value with
  | .nothing, some value => throw (.surplusValue switch value)
  | .nothing, none => return (keep "", rest)
  | follower, value =>
    let (value, rest) ← match value, rest with
      | some value, rest => pure (value, rest)
      | none, .plain s :: rest => pure (s, rest)
      | none, _ => throw (.noValue switch)
    if follower = .whole && (Number.count? value.toList).isNone then
      throw (.notWhole switch value)
    return (keep value, rest)

/-- Has words taken, in at most `fuel` turns. Words in front of a switch go to the arguments with
places that are left, and are in surplus if these take none of them. -/
def takeWords (r : Reading) (places : List Place) (ws : List Word) :
    Nat → Except Complaint (Reading × List Place)
  | 0 => .ok (r, places)
  | fuel + 1 =>
    match ws with
    | .unknown s :: rest => takeWords { r with surplus := r.surplus ++ [s] } places rest fuel
    | .known _ switch value :: rest => do
      let (r, rest) ← takeValue r switch value rest
      takeWords r places rest fuel
    | ws =>
      if ws.any Word.isSwitch then
        match takePlaces r places ws with
        | (r, places, rest) =>
          if rest.length < ws.length then takeWords r places rest fuel
          else
            let (left, rest) := rest.span fun w => !w.isSwitch
            takeWords { r with surplus := r.surplus ++ left.map Word.text } places rest fuel
      else
        let (r, places, rest) := takePlaces r places ws
        .ok ({ r with surplus := r.surplus ++ rest.map Word.text }, places)

namespace Grammar

/-- The names of arguments that must be there and are not. -/
def missing (g : Grammar) (r : Reading) (places : List Place) : List String :=
  ((places.filter (·.arity == .one)).map Place.name) ++
    ((g.switches.filter fun s => s.isRequired && !r.has s.name).map Switch.name)

/-- Reads words, those that nothing takes among them. -/
def read (g : Grammar) (words : List String) : Except Complaint Reading := do
  let ws ← g.readWords words
  let (r, places) ← takeWords {} g.places ws (ws.length + 1)
  match g.missing r places with
  | [] => return r
  | names => throw (.missing names)

/-- Reads words, all of which must be taken. -/
def readAll (g : Grammar) (words : List String) : Except Complaint Reading := do
  let r ← g.read words
  if r.surplus.isEmpty then return r else throw (.surplus r.surplus)

end Grammar

end Intake.Command
