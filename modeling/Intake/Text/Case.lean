import Intake.Text.CaseTable

/-! Capital and small forms of a text, by Unicode's full case mappings. The one mapping that looks
at its surroundings is that of the capital sigma, whose small form differs at the end of a word. -/

namespace Intake.Text

/-- The shift of a code point by the first run that holds it. -/
def CaseRun.image? (runs : List CaseRun) (n : Nat) : Option Nat :=
  (runs.find? fun (first, last, stride, _) =>
    first ≤ n && n ≤ last && (n - first) % stride == 0).map
      fun (_, _, _, shift) => (n + shift).toNat

/-- The form of a character by a table of expansions and a table of shifts. -/
def caseForm (expansions : List (Nat × List Nat)) (runs : List CaseRun) (c : Char) : List Char :=
  match expansions.lookup c.toNat with
  | some form => form.map Char.ofNat
  | none =>
    match CaseRun.image? runs c.toNat with
    | some n => [Char.ofNat n]
    | none => [c]

/-- The capital form of a character. -/
def upperForm (c : Char) : List Char :=
  if c.val < 128 then [c.toUpper] else caseForm upperExpansions upperRuns c

/-- The small form of a character, the surroundings left aside. -/
def lowerForm (c : Char) : List Char :=
  if c.val < 128 then [c.toLower] else caseForm lowerExpansions lowerRuns c

def uppered (s : List Char) : List Char := s.flatMap upperForm

/-- Whether the first character that is not passed over has case. -/
def startsCased (s : List Char) : Bool :=
  match s.dropWhile (inRanges caseIgnorableRanges) with
  | [] => false
  | c :: _ => inRanges casedRanges c

/-- The characters in small letters, where `before` holds those already passed, the nearest
first. A capital sigma after a letter and not before one ends its word. -/
def loweredFrom (before : List Char) : List Char → List Char
  | [] => []
  | c :: rest =>
    (if c = 'Σ' then [if startsCased before && !startsCased rest then 'ς' else 'σ']
      else lowerForm c) ++ loweredFrom (c :: before) rest

def lowered (s : List Char) : List Char := loweredFrom [] s

def upper (s : String) : String := String.ofList (uppered s.toList)

def lower (s : String) : String := String.ofList (lowered s.toList)

@[simp] theorem toList_upper (s : String) : (upper s).toList = uppered s.toList := by
  simp [upper]

@[simp] theorem toList_lower (s : String) : (lower s).toList = lowered s.toList := by
  simp [lower]

end Intake.Text
