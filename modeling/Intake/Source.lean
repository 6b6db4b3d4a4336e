import Intake.Log.Basic
import Intake.Text.Quoted
import Intake.Text.Split
import Intake.Xml.Document

/-! Where documents come from: bytes at hand, or a file that may not be readable. Files have paths,
and there are reasons why a file cannot be read. -/

namespace Intake.Disk

/-- Why a file cannot be read. -/
inductive Refusal where
  | missing | isDirectory | notDirectory
  deriving DecidableEq, Repr

def Refusal.message (path : String) : Refusal → String
  | missing => "[Errno 2] No such file or directory: " ++ Text.quote path
  | isDirectory => "[Errno 21] Is a directory: " ++ Text.quote path
  | notDirectory => "[Errno 20] Not a directory: " ++ Text.quote path

/-- The parts of a path that name something. -/
def parts (path : String) : List String :=
  ((Text.pieces '/' path.toList).filter fun p => !p.isEmpty && p != ['.']).map String.ofList

/-- What an absolute path begins with; two slashes are kept. -/
def root (path : String) : String :=
  match path.toList.takeWhile (· == '/') with
  | [] => ""
  | ['/', '/'] => "//"
  | _ => "/"

/-- A path without parts that name nothing. -/
def plainPath (path : String) : String :=
  match root path ++ Text.join "/" (parts path) with
  | "" => "."
  | plain => plain

/-- Files by their paths. -/
abbrev Files := List (String × String)

/-- Whether a path is that of a directory that holds one of the files. -/
def isDirectory (files : Files) (path : String) : Bool :=
  path == "." || files.any fun f => (parts path).isPrefixOf (parts f.1).dropLast

def read (files : Files) (path : String) : Except Refusal String :=
  let path := plainPath path
  match files.find? fun f => plainPath f.1 == path with
  | some f => .ok f.2
  | none =>
    if isDirectory files path then .error .isDirectory
    else if files.any fun f => (parts f.1).isPrefixOf (parts path) then .error .notDirectory
    else .error .missing

end Intake.Disk

namespace Intake

/-- The source of a document. -/
inductive Source where
  | bytes (content : List UInt8)
  /-- A file and what could be read from it. -/
  | file (name : String) (content : Option (List UInt8))
  deriving DecidableEq, Repr

namespace Source

/-- Why a source gives no document. -/
inductive Refusal where
  | empty | malformed | unreadable
  deriving DecidableEq, Repr

def Refusal.message : Refusal → String
  | empty => "Document is empty"
  | malformed => "Invalid XML format: syntax"
  | unreadable => "Cannot read document: unreadable"

/-- Whether a byte is white space. -/
def isSpaceByte (b : UInt8) : Bool := (9 ≤ b && b ≤ 13) || b == 32

/-- Reads bytes. -/
def readBytes (content : List UInt8) : Logged (Except Refusal Xml.Document) :=
  match Xml.Document.ofBytes? content with
  | some d => pure (.ok d)
  | none => do
    Logged.note .documents .error "Invalid XML document: syntax"
    return .error .malformed

/-- Reads the document of a source. Bytes at hand that are all white space count as empty. -/
def read : Source → Logged (Except Refusal Xml.Document)
  | bytes content =>
    if content.all isSpaceByte then pure (.error .empty) else readBytes content
  | file _ none => pure (.error .unreadable)
  | file _ (some content) => readBytes content

/-- The name of the file at a path: the last part that names something. -/
def fileName (path : String) : String := (Disk.parts path).getLast?.getD ""

def ofText (s : String) : Source := bytes s.toUTF8.toList

end Source

end Intake
