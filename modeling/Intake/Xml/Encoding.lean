import Intake.Xml.ByteSet
import Intake.Xml.Heading

/-! The bytes of a document as characters. A mark or the first characters tell the wide encodings;
otherwise the declaration at the beginning names the encoding, and without a name it is UTF-8. -/

namespace Intake.Xml

/-- The value of a byte that continues a character. -/
def continuation? (b : UInt8) : Option Nat :=
  if 0x80 ≤ b && b < 0xc0 then some (b.toNat - 0x80) else none

def scalar? (n : Nat) : Option Char := if n.isValidChar then some (Char.ofNat n) else none

def twoBytes? (a b : UInt8) : Option Char :=
  if a < 0xc2 || 0xe0 ≤ a then none
  else (continuation? b).bind fun n => scalar? ((a.toNat - 0xc0) * 64 + n)

def threeBytes? (a b c : UInt8) : Option Char := do
  let n := ((a.toNat - 0xe0) * 64 + (← continuation? b)) * 64 + (← continuation? c)
  if a < 0xe0 || 0xf0 ≤ a || n < 0x800 then none else scalar? n

def fourBytes? (a b c d : UInt8) : Option Char := do
  let n := (((a.toNat - 0xf0) * 64 + (← continuation? b)) * 64 + (← continuation? c)) * 64 +
    (← continuation? d)
  if a < 0xf0 || n < 0x10000 then none else scalar? n

/-- The characters of UTF-8; `taken` holds those so far in reverse. -/
def utf8? (taken : List Char) : List UInt8 → Option (List Char)
  | [] => some taken.reverse
  | a :: rest =>
    if a < 0x80 then utf8? (Char.ofNat a.toNat :: taken) rest
    else
      match rest with
      | [] => none
      | b :: rest =>
        match twoBytes? a b, rest with
        | some ch, rest => utf8? (ch :: taken) rest
        | none, [] => none
        | none, c :: rest =>
          match threeBytes? a b c, rest with
          | some ch, rest => utf8? (ch :: taken) rest
          | none, [] => none
          | none, d :: rest =>
            match fourBytes? a b c d with
            | some ch => utf8? (ch :: taken) rest
            | none => none

/-- The 16-bit units of bytes, if their number is even. -/
def units? (littleEnd : Bool) (taken : List Nat) : List UInt8 → Option (List Nat)
  | [] => some taken.reverse
  | [_] => none
  | a :: b :: rest =>
    let unit := if littleEnd then b.toNat * 256 + a.toNat else a.toNat * 256 + b.toNat
    units? littleEnd (unit :: taken) rest

/-- The characters of 16-bit units; two units of the surrogate ranges make one character. -/
def utf16? (taken : List Char) : List Nat → Option (List Char)
  | [] => some taken.reverse
  | n :: rest =>
    if 0xd800 ≤ n && n < 0xdc00 then
      match rest with
      | m :: rest =>
        if 0xdc00 ≤ m && m < 0xe000 then
          utf16? (Char.ofNat (0x10000 + (n - 0xd800) * 0x400 + (m - 0xdc00)) :: taken) rest
        else none
      | [] => none
    else
      match scalar? n with
      | some c => utf16? (c :: taken) rest
      | none => none

/-- The characters of a set with one byte for each. -/
def singleBytes? (upper : List ByteSet.Run) (bytes : List UInt8) : Option (List Char) :=
  bytes.mapM fun b =>
    if b < 0x80 then some (Char.ofNat b.toNat) else ByteSet.char? upper b.toNat

/-- The encoding that the declaration at the beginning names, in capitals. -/
def declaredEncoding (bytes : List UInt8) : Option String :=
  let chars := bytes.map fun b => Char.ofNat b.toNat
  (headingOf? chars).bind fun (heading, _) => heading.encoding.map String.toUpper

/-- The characters of bytes without a mark, in the declared encoding. -/
def decodeDeclared? (bytes : List UInt8) : Option (List Char) :=
  match declaredEncoding bytes with
  | none => utf8? [] bytes
  | some name =>
    if name = "UTF-8" || name = "UTF8" then utf8? [] bytes
    else
      match ByteSet.byName.lookup name with
      | some upper => singleBytes? upper bytes
      | none => none

def decode? (bytes : List UInt8) : Option (List Char) :=
  match bytes with
  | 0xef :: 0xbb :: 0xbf :: rest => utf8? [] rest
  | 0xfe :: 0xff :: rest => (units? false [] rest).bind (utf16? [])
  | 0xff :: 0xfe :: rest => (units? true [] rest).bind (utf16? [])
  | 0x00 :: 0x3c :: 0x00 :: 0x3f :: _ => (units? false [] bytes).bind (utf16? [])
  | 0x3c :: 0x00 :: 0x3f :: 0x00 :: _ => (units? true [] bytes).bind (utf16? [])
  | _ => decodeDeclared? bytes

end Intake.Xml
