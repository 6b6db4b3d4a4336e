import Intake.Json.Basic
import Intake.Number.Shortest

/-! Reading JSON. Besides the values of the standard, `NaN`, `Infinity` and `-Infinity` are
numbers. A text that is not JSON is refused at the first place that does not fit. -/

namespace Intake.Json

/-- What does not fit. -/
inductive Misfit where
  | byteOrderMark | value | propertyName | colon | comma | unterminated | controlCharacter
  | escape | unicodeEscape | extraData
  deriving DecidableEq, Repr

def Misfit.words : Misfit → String
  | byteOrderMark => "Unexpected UTF-8 BOM (decode using utf-8-sig)"
  | value => "Expecting value"
  | propertyName => "Expecting property name enclosed in double quotes"
  | colon => "Expecting ':' delimiter"
  | comma => "Expecting ',' delimiter"
  | unterminated => "Unterminated string starting at"
  | controlCharacter => "Invalid control character at"
  | escape => "Invalid \\escape"
  | unicodeEscape => "Invalid \\uXXXX escape"
  | extraData => "Extra data"

/-- Why a text is refused: a misfit at a character, or a whole number with too many digits. -/
inductive ReadError where
  | misfit (misfit : Misfit) (place : Nat)
  | tooManyDigits (count : Nat)
  deriving DecidableEq, Repr

/-- The words for an error in a text; lines and columns are counted from 1. -/
def ReadError.message (source : List Char) : ReadError → String
  | misfit m place =>
    let before := source.take place
    let line := before.count '\n' + 1
    let column := (before.reverse.takeWhile (· != '\n')).length + 1
    m.words ++ ": line " ++ toString line ++ " column " ++ toString column ++ " (char " ++
      toString place ++ ")"
  | tooManyDigits count =>
    "Exceeds the limit (4300 digits) for integer string conversion: value has " ++
      toString count ++ " digits; use sys.set_int_max_str_digits() to increase the limit"

/-- What is left of a text, and the place of its first character. -/
structure Cursor where
  place : Nat
  rest : List Char

namespace Cursor

/-- The cursor behind `n` characters. -/
def skip (c : Cursor) (n : Nat) : Cursor := ⟨c.place + n, c.rest.drop n⟩

/-- The cursor behind white space. -/
def skipSpace (c : Cursor) : Cursor :=
  c.skip (c.rest.takeWhile fun ch => ch == ' ' || ch == '\t' || ch == '\n' || ch == '\r').length

/-- Refuses the text at the cursor. -/
def refuse {α : Type} (c : Cursor) (m : Misfit) : Except ReadError α := .error (.misfit m c.place)

end Cursor

/-- The number that four hexadecimal digits denote. -/
def unit? (s : List Char) : Option Nat :=
  let digits := s.take 4
  if digits.length != 4 then none
  else
    digits.foldlM (fun n c =>
      if c.isDigit then some (16 * n + (c.toNat - 48))
      else if 'a' ≤ c && c ≤ 'f' then some (16 * n + (c.toNat - 87))
      else if 'A' ≤ c && c ≤ 'F' then some (16 * n + (c.toNat - 55))
      else none) 0

/-- The character of a 16-bit unit; half of a pair that stands alone has none and is replaced. -/
def charOf (n : Nat) : Char := if 0xd800 ≤ n && n < 0xe000 then '\ufffd' else Char.ofNat n

/-- Reads the rest of a string that began at `start`; `found` holds its characters, the last one
first. At most `fuel` characters and escapes are read. -/
def stringFrom (start : Nat) : Nat → List Char → Cursor → Except ReadError (String × Cursor)
  | 0, _, _ => .error (.misfit .unterminated start)
  | fuel + 1, found, c =>
    match c.rest with
    | [] => .error (.misfit .unterminated start)
    | '"' :: _ => .ok (String.ofList found.reverse, c.skip 1)
    | ['\\'] => .error (.misfit .unterminated start)
    | '\\' :: 'u' :: rest =>
      if rest.length ≤ 4 then (c.skip 1).refuse .unicodeEscape
      else
        match unit? rest with
        | none => (c.skip 1).refuse .unicodeEscape
        | some n =>
          let single := stringFrom start fuel (charOf n :: found) (c.skip 6)
          if 0xd800 ≤ n && n < 0xdc00 then
            match rest.drop 4 with
            | '\\' :: 'u' :: more =>
              if more.length ≤ 4 then single
              else
                match unit? more with
                | none => (c.skip 7).refuse .unicodeEscape
                | some m =>
                  if 0xdc00 ≤ m && m < 0xe000 then
                    let joined := 0x10000 + (n - 0xd800) * 0x400 + (m - 0xdc00)
                    stringFrom start fuel (Char.ofNat joined :: found) (c.skip 12)
                  else single
            | _ => single
          else single
    | '\\' :: e :: _ =>
      let plain : Option Char :=
        match e with
        | '"' | '\\' | '/' => some e
        | 'b' => some '\x08'
        | 'f' => some '\x0c'
        | 'n' => some '\n'
        | 'r' => some '\r'
        | 't' => some '\t'
        | _ => none
      match plain with
      | some ch => stringFrom start fuel (ch :: found) (c.skip 2)
      | none => c.refuse .escape
    | ch :: _ =>
      if ch.val < 32 then c.refuse .controlCharacter
      else stringFrom start fuel (ch :: found) (c.skip 1)

/-- Reads a string whose opening mark is at the cursor. -/
def string (c : Cursor) : Except ReadError (String × Cursor) :=
  stringFrom c.place c.rest.length [] (c.skip 1)

/-- The most digits of a whole number. -/
def digitLimit : Nat := 4300

/-- The number `digits * 10 ^ power` as a double. Powers beyond all doubles are not formed. -/
def realOf (negative : Bool) (digits : List Char) (power : Int) : Number.Double :=
  let significant := digits.dropWhile (· == '0')
  let n := significant.foldl (fun n c => 10 * n + (c.toNat - 48)) 0
  let leading := power + significant.length
  if n = 0 || leading < -400 then .finite negative 0 (-1074)
  else if 400 < leading then .infinite negative
  else (Number.Decimal.mk negative n power).toDouble

def number (c : Cursor) : Except ReadError (Json × Cursor) :=
  let negative := c.rest.head? == some '-'
  let body := if negative then c.rest.drop 1 else c.rest
  let whole :=
    match body with
    | '0' :: _ => ['0']
    | _ => body.takeWhile Char.isDigit
  if whole.isEmpty then c.refuse .value
  else
    let afterWhole := body.drop whole.length
    let fraction :=
      match afterWhole with
      | '.' :: more => more.takeWhile Char.isDigit
      | _ => []
    let afterFraction :=
      if fraction.isEmpty then afterWhole else afterWhole.drop (fraction.length + 1)
    let (exponentSign, exponent, exponentSize) : Bool × List Char × Nat :=
      match afterFraction with
      | e :: s =>
        if e = 'e' || e = 'E' then
          let signed := s.head? == some '-' || s.head? == some '+'
          let digits := (if signed then s.drop 1 else s).takeWhile Char.isDigit
          (s.head? == some '-', digits, digits.length + if signed then 2 else 1)
        else (false, [], 0)
      | [] => (false, [], 0)
    let size := (if negative then 1 else 0) + whole.length +
      (if fraction.isEmpty then 0 else fraction.length + 1) +
      if exponent.isEmpty then 0 else exponentSize
    let next := c.skip size
    if fraction.isEmpty && exponent.isEmpty then
      if digitLimit < whole.length then .error (.tooManyDigits whole.length)
      else
        let n : Nat := whole.foldl (fun n c => 10 * n + (c.toNat - 48)) 0
        .ok (.whole (if negative then -(n : Int) else n), next)
    else
      let power : Nat := exponent.foldl (fun n c => min 1000000 (10 * n + (c.toNat - 48))) 0
      let power : Int := (if exponentSign then -(power : Int) else power) - fraction.length
      .ok (.real (realOf negative (whole ++ fraction) power), next)

/-- Words that are values. -/
def words : List (List Char × Json) :=
  [("null".toList, .null), ("true".toList, .truth true), ("false".toList, .truth false),
    ("NaN".toList, .real .nan), ("Infinity".toList, .real (.infinite false)),
    ("-Infinity".toList, .real (.infinite true))]

mutual

/-- Reads a value at the cursor; `fuel` bounds the brackets, commas and values read. -/
def valueFrom : Nat → Cursor → Except ReadError (Json × Cursor)
  | 0, c => c.refuse .value
  | fuel + 1, c =>
    match c.rest with
    | '"' :: _ => (string c).map fun (s, next) => (.text s, next)
    | '\x7b' :: _ =>
      let inner := (c.skip 1).skipSpace
      if inner.rest.head? == some '\x7d' then .ok (.object [], inner.skip 1)
      else membersFrom fuel [] inner
    | '[' :: _ =>
      let inner := (c.skip 1).skipSpace
      if inner.rest.head? == some ']' then .ok (.list [], inner.skip 1) else itemsFrom fuel [] inner
    | _ =>
      match words.find? fun (word, _) => word.isPrefixOf c.rest with
      | some (word, value) => .ok (value, c.skip word.length)
      | none => number c

/-- Reads the members of an object from the cursor on. -/
def membersFrom : Nat → List (String × Json) → Cursor → Except ReadError (Json × Cursor)
  | 0, _, c => c.refuse .propertyName
  | fuel + 1, found, c =>
    if c.rest.head? != some '"' then c.refuse .propertyName
    else
      match string c with
      | .error e => .error e
      | .ok (name, next) =>
        let next := next.skipSpace
        if next.rest.head? != some ':' then next.refuse .colon
        else
          match valueFrom fuel (next.skip 1).skipSpace with
          | .error e => .error e
          | .ok (value, next) =>
            let next := next.skipSpace
            let found := withMember found name value
            match next.rest.head? with
            | some '\x7d' => .ok (.object found, next.skip 1)
            | some ',' => membersFrom fuel found (next.skip 1).skipSpace
            | _ => next.refuse .comma

/-- Reads the items of a list from the cursor on; `found` holds those before, the last one
first. -/
def itemsFrom : Nat → List Json → Cursor → Except ReadError (Json × Cursor)
  | 0, _, c => c.refuse .value
  | fuel + 1, found, c =>
    match valueFrom fuel c with
    | .error e => .error e
    | .ok (value, next) =>
      let next := next.skipSpace
      match next.rest.head? with
      | some ']' => .ok (.list (value :: found).reverse, next.skip 1)
      | some ',' => itemsFrom fuel (value :: found) (next.skip 1).skipSpace
      | _ => next.refuse .comma

end

/-- Reads a text that is one JSON value. -/
def ofChars (source : List Char) : Except ReadError Json :=
  let start : Cursor := ⟨0, source⟩
  if source.head? == some '\ufeff' then start.refuse .byteOrderMark
  else
    match valueFrom (2 * source.length + 2) start.skipSpace with
    | .error e => .error e
    | .ok (value, next) =>
      let next := next.skipSpace
      if next.rest.isEmpty then .ok value else next.refuse .extraData

def ofString (source : String) : Except ReadError Json := ofChars source.toList

end Intake.Json
