import Intake.Number.Reader
import Intake.Text.Letter

/-! The tokens of a loosely written moment. A token is a run of letters, a run of digits, a blank,
or any other single character. Points inside a run hold it together at first: a run of digits with
one point stays a number, other runs are then taken apart at their points and commas. -/

namespace Intake.Calendar.Loose

/-- A token: one or more characters. -/
abbrev Token := List Char

/-- What a token under construction holds, and whether a point has been seen in it. -/
inductive Run where
  | letters | digits | dottedLetters | dottedDigits
  deriving DecidableEq, Repr

/-- The run after one more character; `none` if the character does not belong to it. The flag says
whether the token ends in a point. -/
def Run.next (run : Run) (size : Nat) (endsInPoint : Bool) (c : Char) : Option Run :=
  match run with
  | letters =>
    if Text.isLetter c then some letters
    else if c = '.' then some dottedLetters
    else none
  | digits =>
    if Text.isDigitLike c then some digits
    else if c = '.' || (c = ',' && 2 ≤ size) then some dottedDigits
    else none
  | dottedLetters =>
    if c = '.' || Text.isLetter c then some dottedLetters
    else if Text.isDigitLike c && endsInPoint then some dottedDigits
    else none
  | dottedDigits =>
    if c = '.' || Text.isDigitLike c then some dottedDigits
    else if Text.isLetter c && endsInPoint then some dottedLetters
    else none

/-- Whether a run in this state has seen letters once it looks at another character. -/
def Run.seesLetters : Run → Bool
  | letters | dottedLetters => true
  | digits | dottedDigits => false

/-- A run as read: its characters, its state, whether it has seen letters, and what follows. -/
structure Scanned where
  token : List Char
  run : Run
  letters : Bool
  rest : List Char

/-- Reads a run to its end; `token` holds what has been read, the last character first. -/
def scan (token : List Char) (run : Run) (letters : Bool) : List Char → Scanned
  | [] => ⟨token.reverse, run, letters, []⟩
  | c :: rest =>
    let letters := letters || run.seesLetters
    match run.next token.length (token.head? == some '.') c with
    | some next => scan (c :: token) next letters rest
    | none => ⟨token.reverse, run, letters, c :: rest⟩

/-- The pieces of a token between points and commas, with those between them; empty pieces are left
out. -/
def pointPieces : List Char → List Token
  | [] => []
  | c :: rest =>
    if c = '.' || c = ',' then [c] :: pointPieces rest
    else
      match pointPieces rest with
      | [] => [[c]]
      | piece :: more =>
        if piece = ['.'] || piece = [','] then [c] :: piece :: more else (c :: piece) :: more

/-- The tokens that a run gives. -/
def Scanned.tokens (s : Scanned) : List Token :=
  let dotted := s.run = .dottedLetters || s.run = .dottedDigits
  let points := s.token.count '.'
  let ending := s.token.getLast?.any fun c => c == '.' || c == ','
  if dotted && (s.letters || 1 < points || ending) then pointPieces s.token
  else if s.run = .dottedDigits && points = 0 then
    [s.token.map fun c => if c = ',' then '.' else c]
  else [s.token]

/-- The tokens of a text, of which at most `fuel` runs are read. -/
def tokensFrom : Nat → List Char → List Token
  | 0, _ => []
  | _, [] => []
  | fuel + 1, c :: rest =>
    let start? : Option Run :=
      if Text.isLetter c then some .letters else if Text.isDigitLike c then some .digits else none
    match start? with
    | some run =>
      let s := scan [c] run false rest
      s.tokens ++ tokensFrom fuel s.rest
    | none => (if Text.isBlank c then [' '] else [c]) :: tokensFrom fuel rest

/-- The tokens of a text; null characters are passed over. -/
def tokens (s : List Char) : List Token :=
  let s := s.filter (· != '\x00')
  tokensFrom s.length s

/-- The value of a token of digits with at most one point. -/
def Token.number? (t : Token) : Option Number.Decimal :=
  let (whole, fraction) := Text.cut '.' t
  let digits := whole ++ fraction.getD []
  if digits.isEmpty then none
  else
    (Number.digitsValue? digits).map fun coefficient =>
      ⟨false, coefficient, -((fraction.getD []).length : Int)⟩

/-- The value of a token of digits alone, or of a part of one. -/
def Token.whole? (t : Token) : Option Nat := if t.isEmpty then none else Number.digitsValue? t

/-- Whether a token has digits alone, decimal or not. -/
def Token.isDigits (t : Token) : Bool := !t.isEmpty && t.all Text.isDigitLike

end Intake.Calendar.Loose
