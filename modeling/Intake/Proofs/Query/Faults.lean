import Intake.Proofs.Query.Order

/-! Where a query comes to a fault. A path that cannot be evaluated is refused; a fault takes a table
of namespaces that cannot be used, or a character that no document can hold. -/

namespace Intake.Query

open Xml XPath

variable {d : Document} {spaces : Spaces} {n : Node}

/-- What brings a query to a fault: the table of namespaces, or a character of one of the attempts
at the path. -/
inductive FaultCause (spaces : Spaces) (path : String) (fault : Fault) : Prop
  | spaces : spacesFault? spaces = some fault → FaultCause spaces path fault
  | characters {candidate : String} : candidate ∈ candidates (Text.trim path) →
      candidate.toList.all isChar = false → fault = .strangeCharacters →
      FaultCause spaces path fault

theorem search_fault {path : String} {attempts : List String} {failed : Option XPath.Error}
    {isEvaluated : Bool} {fault : Fault}
    (h : (search d spaces n path failed isEvaluated attempts).value = .error (.fault fault)) :
    spacesFault? spaces = some fault ∨
      fault = .strangeCharacters ∧ ∃ candidate ∈ attempts, candidate.toList.all isChar = false := by
  induction attempts generalizing failed isEvaluated with
  | nil =>
    unfold search at h
    split at h <;> cases h
  | cons candidate rest ih =>
    have hRest : ∀ {failed isEvaluated},
        (search d spaces n path failed isEvaluated rest).value = .error (.fault fault) →
        spacesFault? spaces = some fault ∨ fault = .strangeCharacters ∧
          ∃ other ∈ candidate :: rest, other.toList.all isChar = false := by
      intro failed isEvaluated h
      rcases ih h with h | ⟨hFault, other, hOther, hChars⟩
      · exact .inl h
      · exact .inr ⟨hFault, other, List.mem_cons_of_mem _ hOther, hChars⟩
    unfold search at h
    split at h
    · rename_i fault' hAttempt
      cases h
      unfold attempt at hAttempt
      split at hAttempt
      · rename_i hSpaces
        cases hAttempt
        exact .inl hSpaces
      · split at hAttempt
        · cases hAttempt
        · rename_i hChars
          cases hAttempt
          exact .inr ⟨rfl, candidate, List.mem_cons_self, by simpa using hChars⟩
    · exact hRest h
    · split at h
      · split at h <;> cases h
      · exact hRest h

theorem find_fault {path : String} {fault : Fault}
    (h : (find d spaces n path).value = .error (.fault fault)) : FaultCause spaces path fault := by
  unfold find at h
  split at h
  · cases h
  · rcases search_fault h with h | ⟨hFault, candidate, hMem, hChars⟩
    · exact .spaces h
    · exact .characters hMem hChars hFault

theorem text_fault {path : String} {fault : Fault}
    (h : (text d spaces n path).value = .error (.fault fault)) : FaultCause spaces path fault :=
  find_fault (map_eq_error.mp h)

theorem elements_fault {path : String} {fault : Fault}
    (h : (elements d spaces n path).value = .error (.fault fault)) :
    FaultCause spaces path fault := by
  unfold elements at h
  rw [Logged.value_bind] at h
  split at h
  · rename_i hFind
    cases h
    exact find_fault hFind
  all_goals cases h

theorem firstPattern_fault {patterns : List String} {fault : Fault}
    (h : (firstPattern d spaces n patterns).value = .error (.fault fault)) :
    ∃ pattern ∈ patterns, FaultCause spaces pattern fault := by
  induction patterns with
  | nil => cases h
  | cons pattern rest ih =>
    have hRest : (firstPattern d spaces n rest).value = .error (.fault fault) →
        ∃ other ∈ pattern :: rest, FaultCause spaces other fault := by
      intro h
      obtain ⟨other, hOther, hCause⟩ := ih h
      exact ⟨other, List.mem_cons_of_mem _ hOther, hCause⟩
    unfold firstPattern at h
    rw [Logged.value_bind] at h
    split at h
    · rename_i hFound
      cases h
      exact ⟨pattern, List.mem_cons_self, elements_fault hFound⟩
    · exact hRest h
    · exact hRest h
    · cases h

theorem findLines_fault {s : MappingSettings} {parent : String} {fault : Fault}
    (h : (findLines s d spaces n parent).value = .error (.fault fault)) :
    ∃ path ∈ parent :: s.linePaths, FaultCause spaces path fault := by
  rw [findLines_eq, Logged.value_bind] at h
  split at h
  · rename_i hConfigured
    cases h
    split at hConfigured
    · cases hConfigured
    · exact ⟨parent, List.mem_cons_self, elements_fault hConfigured⟩
  · cases h
  · split at h
    · unfold fallbackLines at h
      rw [Logged.value_bind] at h
      split at h
      · rename_i hPattern
        cases h
        obtain ⟨pattern, hMem, hCause⟩ := firstPattern_fault hPattern
        exact ⟨pattern, List.mem_cons_of_mem _ hMem, hCause⟩
      · cases h
      · split at h <;> cases h
    · cases h

end Intake.Query
