import Intake.Config.Basic
import Intake.Json.Reader

/-! Where configurations come from: a JSON value at hand, or a file that may not be readable. -/

namespace Intake.Config

/-- The source of a configuration. -/
inductive Source where
  | value (j : Json)
  /-- A file, and its text or the reason why it cannot be read. -/
  | file (path : String) (content : Except String String)

/-- A text with every end of a line written the same way. -/
def withPlainLineEnds : List Char → List Char
  | '\r' :: '\n' :: rest => '\n' :: withPlainLineEnds rest
  | '\r' :: rest => '\n' :: withPlainLineEnds rest
  | c :: rest => c :: withPlainLineEnds rest
  | [] => []

def readText (path text : String) : Except Failure Json :=
  let chars := withPlainLineEnds text.toList
  match Json.ofChars chars with
  | .ok j => .ok j
  | .error (.tooManyDigits count) => .error (.fault (.unreadableWhole count))
  | .error e => .error (.refused (.unreadable path (e.message chars)))

def Source.read : Source → Except Failure Config
  | value j => Config.ofJson j
  | file path (.error reason) => .error (.refused (.unreadable path reason))
  | file path (.ok text) => do Config.ofJson (← readText path text)

end Intake.Config
