import Intake.Text.Classes

/-! The characters of XML: which may occur in a document, which are white space, and which names
consist of. -/

namespace Intake.Xml

/-- Whether a character may occur in a document. -/
def isChar (c : Char) : Bool :=
  let n := c.toNat
  n == 9 || n == 10 || n == 13 || (0x20 ≤ n && n ≤ 0xfffd) || 0x10000 ≤ n

def isSpace (c : Char) : Bool := c == ' ' || c == '\t' || c == '\n' || c == '\r'

/-- The characters that a name can begin with, the colon left out. -/
def nameStarts : List (Nat × Nat) :=
  [(0x41, 0x5a), (0x5f, 0x5f), (0x61, 0x7a), (0xc0, 0xd6), (0xd8, 0xf6), (0xf8, 0x2ff),
    (0x370, 0x37d), (0x37f, 0x1fff), (0x200c, 0x200d), (0x2070, 0x218f), (0x2c00, 0x2fef),
    (0x3001, 0xd7ff), (0xf900, 0xfdcf), (0xfdf0, 0xfffd), (0x10000, 0xeffff)]

/-- Whether a name without colons can begin with a character. -/
def isNameStart (c : Char) : Bool := Text.inRanges nameStarts c

/-- Whether a name without colons can go on with a character. -/
def isNameChar (c : Char) : Bool :=
  let n := c.toNat
  isNameStart c || c == '-' || c == '.' || (0x30 ≤ n && n ≤ 0x39) || n == 0xb7 ||
    (0x300 ≤ n && n ≤ 0x36f) || n == 0x203f || n == 0x2040

end Intake.Xml
