/-! Texts in pieces: the pieces between the occurrences of a separator, the two sides of its first
occurrence, and the pieces put together again. -/

namespace Intake.Text

/-- Puts a character in front of the first piece. -/
def consHead (c : Char) : List (List Char) → List (List Char)
  | [] => [[c]]
  | piece :: rest => (c :: piece) :: rest

/-- The pieces between the occurrences of `sep`; there is one more of them than occurrences. -/
def pieces (sep : Char) : List Char → List (List Char)
  | [] => [[]]
  | c :: rest => if c = sep then [] :: pieces sep rest else consHead c (pieces sep rest)

/-- What stands before the first `sep` and what stands behind it, if there is one. -/
def cut (sep : Char) (s : List Char) : List Char × Option (List Char) :=
  match s.dropWhile (· != sep) with
  | [] => (s, none)
  | _ :: rest => (s.takeWhile (· != sep), some rest)

/-- The pieces with `sep` between any two of them. -/
def joined (sep : List Char) : List (List Char) → List Char
  | [] => []
  | [piece] => piece
  | piece :: rest => piece ++ sep ++ joined sep rest

def join (sep : String) : List String → String
  | [] => ""
  | [s] => s
  | s :: rest => s ++ sep ++ join sep rest

/-- What is left of `s` behind the beginning `start`, if `s` begins so. -/
def dropStart? : List Char → List Char → Option (List Char)
  | [], s => some s
  | _ :: _, [] => none
  | a :: start, c :: s => if a = c then dropStart? start s else none

/-- Whether `part` occurs in `s`. -/
def occursIn (part : List Char) : List Char → Bool
  | [] => part.isEmpty
  | c :: s => (dropStart? part (c :: s)).isSome || occursIn part s

/-- Every occurrence of `old` becomes `new`, from the left, without overlaps. -/
def replaced (old new : List Char) (s : List Char) : List Char :=
  go s.length s
where
  /-- Replaces with at most `fuel` steps; each step takes at least one character. -/
  go : Nat → List Char → List Char
    | 0, s => s
    | _, [] => []
    | fuel + 1, c :: rest =>
      match dropStart? old (c :: rest) with
      | some after => new ++ go fuel after
      | none => c :: go fuel rest

theorem pieces_ne_nil (sep : Char) (s : List Char) : pieces sep s ≠ [] := by
  cases s with
  | nil => simp [pieces]
  | cons c rest =>
    unfold pieces
    split
    · simp
    · cases pieces sep rest <;> simp [consHead]

theorem joined_pieces (sep : Char) (s : List Char) : joined [sep] (pieces sep s) = s := by
  induction s with
  | nil => rfl
  | cons c rest ih =>
    obtain ⟨piece, more, h⟩ := List.exists_cons_of_ne_nil (pieces_ne_nil sep rest)
    rw [h] at ih
    unfold pieces
    split
    · next hc => simp [h, joined, ih, hc]
    · cases more <;> simp_all [joined, consHead]

theorem consHead_append (c : Char) {parts : List (List Char)} (more : List (List Char))
    (h : parts ≠ []) : consHead c (parts ++ more) = consHead c parts ++ more := by
  cases parts with
  | nil => exact absurd rfl h
  | cons piece rest => rfl

/-- Two texts with a separator between them have the pieces of both. -/
theorem pieces_append (sep : Char) (s t : List Char) :
    pieces sep (s ++ sep :: t) = pieces sep s ++ pieces sep t := by
  induction s with
  | nil => simp [pieces]
  | cons c rest ih =>
    rw [List.cons_append, pieces, pieces]
    split
    · rw [ih, List.cons_append]
    · rw [ih, consHead_append c _ (pieces_ne_nil sep rest)]

end Intake.Text
