import Intake.Proofs.Results
import Intake.Xml.Document

/-! The characters of what is read: names and values, however they are written, have no characters
that cannot occur in a document. -/

namespace Intake.Xml

theorem isChar_iff {c : Char} : isChar c ↔ c.toNat = 9 ∨ c.toNat = 10 ∨ c.toNat = 13 ∨
    (0x20 ≤ c.toNat ∧ c.toNat ≤ 0xfffd) ∨ 0x10000 ≤ c.toNat := by
  simp only [isChar, Bool.or_eq_true, Bool.and_eq_true, decide_eq_true_eq, beq_iff_eq, or_assoc]

theorem isChar_of_isNameStart {c : Char} (h : isNameStart c) : isChar c := by
  rw [isChar_iff]
  simp only [isNameStart, Text.inRanges, nameStarts, List.any_cons, List.any_nil, Bool.or_eq_true,
    Bool.and_eq_true, decide_eq_true_eq, Bool.false_eq_true, or_false] at h
  omega

theorem isChar_of_isNameChar {c : Char} (h : isNameChar c) : isChar c := by
  simp only [isNameChar, Bool.or_eq_true, Bool.and_eq_true, decide_eq_true_eq, beq_iff_eq,
    or_assoc] at h
  rcases h with h | rfl | rfl | h
  · exact isChar_of_isNameStart h
  · decide
  · decide
  · rw [isChar_iff]
    omega

/-- A text that a document can hold. -/
def IsText (s : String) : Prop := ∀ c ∈ s.toList, isChar c

/-- A text that is not empty and that a document can hold. -/
def IsNonemptyText (s : String) : Prop := s ≠ "" ∧ IsText s

section Names

variable {s rest : List Char}

theorem plainName?_isNonemptyText {name : String} (h : plainName? s = some (name, rest)) :
    IsNonemptyText name := by
  unfold plainName? at h
  split at h
  · cases h
  · rename_i c more
    split at h <;> cases h
    rename_i hStart
    refine ⟨by simp, fun d hd => ?_⟩
    rw [String.toList_ofList, List.mem_cons] at hd
    rcases hd with rfl | hd
    · exact isChar_of_isNameStart hStart
    · exact isChar_of_isNameChar (List.all_eq_true.mp List.all_takeWhile d hd)

theorem writtenName?_isNonemptyText {name : WrittenName} (h : writtenName? s = some (name, rest)) :
    IsNonemptyText name.localName := by
  obtain ⟨⟨first, behind⟩, hFirst, h⟩ := Option.bind_eq_some_iff.mp h
  dsimp only at h
  split at h
  · obtain ⟨⟨second, behind'⟩, hSecond, h⟩ := Option.bind_eq_some_iff.mp h
    dsimp only at h
    split at h <;> cases h
    exact plainName?_isNonemptyText hSecond
  · cases h
    exact plainName?_isNonemptyText hFirst

theorem charOf?_isChar {n : Nat} {c : Char} (h : charOf? n = some c) : isChar c := by
  unfold charOf? at h
  split at h <;> cases h
  rename_i hFits
  exact (Bool.and_eq_true_iff.mp hFits).2

theorem charReference?_isChar {c : Char} (h : charReference? s = some (c, rest)) : isChar c := by
  unfold charReference? at h
  dsimp only at h
  split at h
  · obtain ⟨c', hChar, hSame⟩ := Option.map_eq_some_iff.mp h
    cases hSame
    exact charOf?_isChar hChar
  · cases h

theorem standardEntity?_isChar {name : String} {c : Char} (h : standardEntity? name = some c) :
    isChar c := by
  unfold standardEntity? at h
  split at h <;> cases h <;> decide

end Names

section Values

variable {e : Entities}

/-- References in a value are replaced by characters of documents, if those inside of entities are. -/
theorem expandFrom_isChar {isNested : Bool} {inside : Nat → List Char → Option (List Char × Nat)}
    {fuel spent spent' : Nat} {taken written value : List Char}
    (hInside : ∀ {spent text value spent'}, inside spent text = some (value, spent') →
      ∀ c ∈ value, isChar c)
    (hTaken : ∀ c ∈ taken, isChar c)
    (h : e.expandFrom isNested inside fuel spent taken written = some (value, spent')) :
    ∀ c ∈ value, isChar c := by
  fun_induction Entities.expandFrom e isNested inside fuel spent taken written with
  | case1 =>
    cases h
    simpa using hTaken
  | case3 =>
    rename_i hReference ih
    exact ih (List.forall_mem_cons.mpr ⟨charReference?_isChar hReference, hTaken⟩) h
  | case6 =>
    rename_i hStandard ih
    exact ih (List.forall_mem_cons.mpr ⟨standardEntity?_isChar hStandard, hTaken⟩) h
  | case7 =>
    rename_i ih
    exact ih hTaken h
  | case9 =>
    rename_i hNested ih
    obtain ⟨spent, -, hNested⟩ := Option.bind_eq_some_iff.mp hNested
    refine ih (fun c hc => ?_) h
    rcases List.mem_append.mp hc with hc | hc
    · exact hInside hNested c (List.mem_reverse.mp hc)
    · exact hTaken c hc
  | case13 =>
    rename_i c rest _ _ hPlain c' ih
    refine ih (List.forall_mem_cons.mpr ⟨?_, hTaken⟩) h
    rw [Bool.or_eq_true, not_or] at hPlain
    unfold c'
    split
    · decide
    · simpa using hPlain.2
  | _ => cases h

theorem expand_isChar {isNested : Bool} {levels spent spent' : Nat} {written value : List Char}
    (h : e.expand levels isNested spent written = some (value, spent')) : ∀ c ∈ value, isChar c := by
  induction levels generalizing isNested spent written value spent' with
  | zero => exact expandFrom_isChar (fun hNone => by cases hNone) (by simp) h
  | succ levels ih => exact expandFrom_isChar ih (by simp) h

theorem mem_consHead {c d : Char} {pieces : List (List Char)} {piece : List Char}
    (hPiece : piece ∈ Text.consHead c pieces) (hd : d ∈ piece) :
    d = c ∨ ∃ other ∈ pieces, d ∈ other := by
  cases pieces with
  | nil =>
    obtain rfl := List.mem_singleton.mp hPiece
    exact .inl (List.mem_singleton.mp hd)
  | cons first rest =>
    rcases List.mem_cons.mp hPiece with rfl | hPiece
    · exact (List.mem_cons.mp hd).imp id fun hd => ⟨first, List.mem_cons_self, hd⟩
    · exact .inr ⟨piece, List.mem_cons_of_mem _ hPiece, hd⟩

theorem mem_of_mem_pieces {sep d : Char} {s piece : List Char} (hPiece : piece ∈ Text.pieces sep s)
    (hd : d ∈ piece) : d ∈ s := by
  induction s generalizing piece with
  | nil =>
    obtain rfl := List.mem_singleton.mp hPiece
    cases hd
  | cons c rest ih =>
    rw [Text.pieces] at hPiece
    split at hPiece
    · rcases List.mem_cons.mp hPiece with rfl | hPiece
      · cases hd
      · exact List.mem_cons_of_mem _ (ih hPiece hd)
    · rcases mem_consHead hPiece hd with rfl | ⟨other, hOther, hd⟩
      · exact List.mem_cons_self
      · exact List.mem_cons_of_mem _ (ih hOther hd)

theorem mem_joined {sep : List Char} {pieces : List (List Char)} {d : Char}
    (h : d ∈ Text.joined sep pieces) : d ∈ sep ∨ ∃ piece ∈ pieces, d ∈ piece := by
  fun_induction Text.joined sep pieces with
  | case1 => cases h
  | case2 piece => exact .inr ⟨piece, List.mem_cons_self, h⟩
  | case3 piece rest hRest ih =>
    rcases List.mem_append.mp h with h | h
    · rcases List.mem_append.mp h with h | h
      · exact .inr ⟨piece, List.mem_cons_self, h⟩
      · exact .inl h
    · exact (ih h).imp id fun ⟨other, hOther, hd⟩ => ⟨other, List.mem_cons_of_mem _ hOther, hd⟩

theorem tokenized_isChar {value : List Char} (h : ∀ c ∈ value, isChar c) :
    ∀ c ∈ tokenized value, isChar c := by
  intro c hc
  rcases mem_joined hc with hc | ⟨piece, hPiece, hc⟩
  · obtain rfl := List.mem_singleton.mp hc
    decide
  · exact h c (mem_of_mem_pieces (List.mem_filter.mp hPiece).1 hc)

/-- The value of an attribute, whatever its type is. -/
theorem value?_isText {spent spent' : Nat} {written value : List Char}
    (h : e.value? spent written = some (value, spent')) (isPlain : Bool) :
    IsText (String.ofList (if isPlain then value else tokenized value)) := by
  have hChars : ∀ c ∈ value, isChar c := expand_isChar h
  rw [IsText, String.toList_ofList]
  split
  · exact hChars
  · exact tokenized_isChar hChars

end Values

end Intake.Xml
