import Intake.Path.NameStep
import Intake.Proofs.Text.Parts
import Intake.Xml.Scan

/-! Names of ASCII characters. All that reads a path agrees where such a name ends. -/

namespace Intake

/-- Whether a name of ASCII characters can begin with a character. -/
def isPlainStart (c : Char) : Bool := c.isAlpha || c == '_'

/-- Whether a name of ASCII characters can go on with a character. -/
def isPlainChar (c : Char) : Bool := c.isAlphanum || c == '_' || c == '-' || c == '.'

/-- A name of ASCII characters. -/
structure PlainName where
  first : Char
  rest : List Char
  isStart : isPlainStart first
  arePlain : ∀ c ∈ rest, isPlainChar c

/-- The characters of a name. -/
def PlainName.chars (n : PlainName) : List Char := n.first :: n.rest

/-- The text of a name. -/
def PlainName.text (n : PlainName) : String := String.ofList n.chars

theorem Char.toNat_eq_iff {c d : Char} : c.toNat = d.toNat ↔ c = d :=
  ⟨fun h => Char.ext (UInt32.toNat_inj.mp h), fun h => h ▸ rfl⟩

theorem isAlpha_iff {c : Char} :
    c.isAlpha ↔ 65 ≤ c.toNat ∧ c.toNat ≤ 90 ∨ 97 ≤ c.toNat ∧ c.toNat ≤ 122 := by
  have hCases : c.isAlpha = (decide ('A'.val ≤ c.val ∧ c.val ≤ 'Z'.val) ||
      decide ('a'.val ≤ c.val) && decide (c.val ≤ 'z'.val)) := rfl
  simp only [hCases, Bool.or_eq_true, Bool.and_eq_true, decide_eq_true_eq, UInt32.le_iff_toNat_le]
  rfl

theorem isDigit_iff {c : Char} : c.isDigit ↔ 48 ≤ c.toNat ∧ c.toNat ≤ 57 := by
  have hCases : c.isDigit = (decide ('0'.val ≤ c.val) && decide (c.val ≤ '9'.val)) := rfl
  simp only [hCases, Bool.and_eq_true, decide_eq_true_eq, UInt32.le_iff_toNat_le]
  rfl

theorem isPlainStart_iff {c : Char} : isPlainStart c ↔
    65 ≤ c.toNat ∧ c.toNat ≤ 90 ∨ c.toNat = 95 ∨ 97 ≤ c.toNat ∧ c.toNat ≤ 122 := by
  have hLow : c = '_' ↔ c.toNat = 95 := Char.toNat_eq_iff.symm
  rw [isPlainStart, Bool.or_eq_true, isAlpha_iff, beq_iff_eq, hLow]
  omega

theorem isPlainChar_iff {c : Char} : isPlainChar c ↔
    c.toNat = 45 ∨ c.toNat = 46 ∨ 48 ≤ c.toNat ∧ c.toNat ≤ 57 ∨ 65 ≤ c.toNat ∧ c.toNat ≤ 90 ∨
      c.toNat = 95 ∨ 97 ≤ c.toNat ∧ c.toNat ≤ 122 := by
  have hLow : c = '_' ↔ c.toNat = 95 := Char.toNat_eq_iff.symm
  have hDash : c = '-' ↔ c.toNat = 45 := Char.toNat_eq_iff.symm
  have hPoint : c = '.' ↔ c.toNat = 46 := Char.toNat_eq_iff.symm
  have hLetter : c.isAlphanum = (c.isAlpha || c.isDigit) := rfl
  simp only [isPlainChar, hLetter, Bool.or_eq_true, isAlpha_iff, isDigit_iff, beq_iff_eq, hLow,
    hDash, hPoint]
  omega

theorem isPlainChar_of_isPlainStart {c : Char} (h : isPlainStart c) : isPlainChar c := by
  rw [isPlainStart_iff] at h
  rw [isPlainChar_iff]
  omega

theorem ne_of_class {p : Char → Bool} {c d : Char} (h : p c) (hd : p d = false) : c ≠ d := by
  rintro rfl
  rw [h] at hd
  cases hd

section Characters

variable {c : Char}

theorem isNameStart_of_isPlainStart (h : isPlainStart c) : Xml.isNameStart c := by
  rw [isPlainStart_iff] at h
  simp only [Xml.isNameStart, Text.inRanges, Xml.nameStarts, List.any_cons, Bool.or_eq_true,
    Bool.and_eq_true, decide_eq_true_eq]
  omega

theorem isNameChar_of_isPlainChar (h : isPlainChar c) : Xml.isNameChar c := by
  by_cases hStart : isPlainStart c
  · simp [Xml.isNameChar, isNameStart_of_isPlainStart hStart]
  · have hDash : c = '-' ↔ c.toNat = 45 := Char.toNat_eq_iff.symm
    have hPoint : c = '.' ↔ c.toNat = 46 := Char.toNat_eq_iff.symm
    rw [isPlainStart_iff] at hStart
    rw [isPlainChar_iff] at h
    simp only [Xml.isNameChar, Bool.or_eq_true, Bool.and_eq_true, decide_eq_true_eq, beq_iff_eq,
      hDash, hPoint]
    omega

theorem isStepChar_of_isPlainChar (h : isPlainChar c) : Path.NameStep.isNameChar c := by
  have hAscii : c.val < 128 := by
    rw [isPlainChar_iff] at h
    rw [UInt32.lt_iff_toNat_lt]
    change c.toNat < 128
    omega
  simp only [isPlainChar, Char.isAlphanum, Bool.or_eq_true, beq_iff_eq] at h
  simp only [Path.NameStep.isNameChar, Text.isWordChar, Text.isLetter, hAscii, Text.isNumeral,
    Text.isDigitLike, Text.isDecimalDigit, Text.digitValue?, Bool.or_eq_true, beq_iff_eq, if_true]
  rcases h with (((h | h) | h) | h) | h <;> simp [h]

theorem isBlank_of_isPlainChar (h : isPlainChar c) : Text.isBlank c = false := by
  rw [isPlainChar_iff] at h
  simp only [Text.isBlank, Bool.or_eq_false_iff, Bool.and_eq_false_iff, decide_eq_false_iff_not,
    beq_eq_false_iff_ne]
  omega

theorem isSpace_of_isPlainChar (h : isPlainChar c) : Xml.isSpace c = false := by
  have hNe : ∀ d, isPlainChar d = false → (c == d) = false :=
    fun d hd => beq_eq_false_iff_ne.mpr (ne_of_class h hd)
  simp only [Xml.isSpace, hNe ' ' (by decide), hNe '\t' (by decide), hNe '\n' (by decide),
    hNe '\r' (by decide), Bool.or_self]

theorem isChar_of_isPlainChar (h : isPlainChar c) : Xml.isChar c := by
  rw [isPlainChar_iff] at h
  simp only [Xml.isChar, Bool.or_eq_true, Bool.and_eq_true, decide_eq_true_eq, beq_iff_eq]
  omega

end Characters

/-- A step is read up to the end of a name. -/
theorem Path.NameStep.name?_append {c : Char} {name rest : List Char} (hStart : isNameStart c)
    (hName : ∀ d ∈ name, isNameChar d) (hStop : ∀ d ∈ rest.head?, isNameChar d = false) :
    name? (c :: name ++ rest) = some (c :: name, rest) := by
  rw [List.cons_append, name?, if_pos hStart, Text.takeWhile_append_of_stop hName hStop,
    Text.dropWhile_append_of_stop hName hStop]

namespace PlainName

variable (n : PlainName) {rest : List Char}

theorem isPlainChar_of_mem {c : Char} (h : c ∈ n.chars) : isPlainChar c := by
  rcases List.mem_cons.mp h with rfl | h
  · exact isPlainChar_of_isPlainStart n.isStart
  · exact n.arePlain c h

theorem name?_append (h : ∀ c ∈ rest.head?, Path.NameStep.isNameChar c = false) :
    Path.NameStep.name? (n.chars ++ rest) = some (n.chars, rest) :=
  Path.NameStep.name?_append n.isStart (fun c hc => isStepChar_of_isPlainChar (n.arePlain c hc)) h

/-- So is an expression. -/
theorem plainName?_append (h : ∀ c ∈ rest.head?, Xml.isNameChar c = false) :
    Xml.plainName? (n.chars ++ rest) = some (n.text, rest) := by
  have hRest : ∀ c ∈ n.rest, Xml.isNameChar c :=
    fun c hc => isNameChar_of_isPlainChar (n.arePlain c hc)
  rw [chars, List.cons_append, Xml.plainName?, if_pos (isNameStart_of_isPlainStart n.isStart),
    Text.takeWhile_append_of_stop hRest h, Text.dropWhile_append_of_stop hRest h]
  rfl

end PlainName

end Intake
