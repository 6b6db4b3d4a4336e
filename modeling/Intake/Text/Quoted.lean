import Intake.Text.Printable

/-! Texts as they are shown inside a message: between quotation marks, with the marks, backslashes
and unprintable characters escaped. Single marks are used unless the text holds single marks and no
double ones. Percent signs: a byte may be written as a percent sign and two hexadecimal digits.
Characters beyond ASCII are written byte by byte as in UTF-8. -/

namespace Intake.Text

/-- The hexadecimal digits of `n`, at least `width` of them. -/
def hexDigits (width n : Nat) : List Char :=
  let digits := Nat.toDigits 16 n
  List.replicate (width - digits.length) '0' ++ digits

/-- An unprintable character by its number, in as few digits as its size allows. -/
def numericEscape (c : Char) : List Char :=
  if c.val < 0x100 then '\\' :: 'x' :: hexDigits 2 c.toNat
  else if c.val < 0x10000 then '\\' :: 'u' :: hexDigits 4 c.toNat
  else '\\' :: 'U' :: hexDigits 8 c.toNat

/-- A character between marks `mark`. -/
def escapedChar (mark c : Char) : List Char :=
  if c = mark || c = '\\' then ['\\', c]
  else if c = '\t' then ['\\', 't']
  else if c = '\n' then ['\\', 'n']
  else if c = '\r' then ['\\', 'r']
  else if isPrintable c then [c]
  else numericEscape c

/-- The mark that is put around a text. -/
def quotationMark (s : List Char) : Char := if s.contains '\'' && !s.contains '"' then '"' else '\''

def quote (s : String) : String :=
  let mark := quotationMark s.toList
  String.ofList (mark :: s.toList.flatMap (escapedChar mark) ++ [mark])

def quoteList (texts : List String) : String :=
  "[" ++ ", ".intercalate (texts.map quote) ++ "]"

/-- The value of a hexadecimal digit. -/
def hexValue? (c : Char) : Option Nat :=
  if '0' ≤ c && c ≤ '9' then some (c.toNat - 48)
  else if 'a' ≤ c && c ≤ 'f' then some (c.toNat - 87)
  else if 'A' ≤ c && c ≤ 'F' then some (c.toNat - 55)
  else none

/-- The bytes of a text, those with percent signs read. -/
def percentBytes : List Char → List UInt8
  | '%' :: a :: b :: rest =>
    match hexValue? a, hexValue? b with
    | some x, some y => (16 * x + y).toUInt8 :: percentBytes rest
    | _, _ => 37 :: percentBytes (a :: b :: rest)
  | c :: rest => (String.singleton c).toUTF8.toList ++ percentBytes rest
  | [] => []

/-- The text with percent signs read, provided that the bytes are those of a text. -/
def percentDecoded (s : List Char) : List Char :=
  match String.fromUTF8? ⟨(percentBytes s).toArray⟩ with
  | some t => t.toList
  | none => s

/-- Whether a character stands for itself in an address. -/
def isUnreserved (c : Char) : Bool :=
  c.isAlphanum || c == '_' || c == '.' || c == '-' || c == '~'

/-- A byte written with a percent sign. -/
def percentByte (b : UInt8) : List Char :=
  '%' :: (hexDigits 2 b.toNat).map Char.toUpper

/-- The text with percent signs in place of all characters that are not plain. -/
def percentEncoded (isPlain : Char → Bool) (s : List Char) : List Char :=
  s.flatMap fun c =>
    if isPlain c then [c] else (String.singleton c).toUTF8.toList.flatMap percentByte

end Intake.Text
