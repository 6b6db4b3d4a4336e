import Intake.Json.Basic
import Intake.Number.Shortest
import Intake.Text.Quoted

/-! Writing JSON, on one line, with a blank behind commas and colons. Characters beyond ASCII stand
for themselves. Inside messages texts are shown between single quotation marks where that can be done,
and null, true and false as words with a capital. -/

namespace Intake.Json

/-- A character inside a string. -/
def escapedChar (c : Char) : List Char :=
  if c = '"' || c = '\\' then ['\\', c]
  else if c = '\n' then ['\\', 'n']
  else if c = '\r' then ['\\', 'r']
  else if c = '\t' then ['\\', 't']
  else if c = '\x08' then ['\\', 'b']
  else if c = '\x0c' then ['\\', 'f']
  else if c.val < 32 then '\\' :: 'u' :: Text.hexDigits 4 c.toNat
  else [c]

/-- A text between quotation marks. -/
def quote (s : String) : String :=
  String.ofList ('"' :: s.toList.flatMap escapedChar ++ ['"'])

/-- A number that need not be whole. -/
def realText : Number.Double → String
  | .nan => "NaN"
  | .infinite negative => if negative then "-Infinity" else "Infinity"
  | x => x.text

mutual

/-- A value on one line. -/
def print : Json → String
  | null => "null"
  | truth b => if b then "true" else "false"
  | whole n => toString n
  | real x => realText x
  | text s => quote s
  | list items => "[" ++ printItems items ++ "]"
  | object members => "\x7b" ++ printMembers members ++ "\x7d"

def printItems : List Json → String
  | [] => ""
  | [item] => print item
  | item :: rest => print item ++ ", " ++ printItems rest

def printMembers : List (String × Json) → String
  | [] => ""
  | [(name, value)] => quote name ++ ": " ++ print value
  | (name, value) :: rest => quote name ++ ": " ++ print value ++ ", " ++ printMembers rest

end

mutual

/-- A value as it is shown inside a message. -/
def shown : Json → String
  | null => "None"
  | truth b => if b then "True" else "False"
  | whole n => toString n
  | real x => x.text
  | text s => Text.quote s
  | list items => "[" ++ shownItems items ++ "]"
  | object members => "\x7b" ++ shownMembers members ++ "\x7d"

def shownItems : List Json → String
  | [] => ""
  | [item] => shown item
  | item :: rest => shown item ++ ", " ++ shownItems rest

def shownMembers : List (String × Json) → String
  | [] => ""
  | [(name, value)] => Text.quote name ++ ": " ++ shown value
  | (name, value) :: rest =>
    Text.quote name ++ ": " ++ shown value ++ ", " ++ shownMembers rest

end

end Intake.Json
