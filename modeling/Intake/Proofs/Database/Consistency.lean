import Intake.Proofs.Database.Calls
import Intake.Proofs.Database.Kept

/-! The consistency of a database. Whatever a call of a writer comes to, each success that is on record
has its header and its lines, all of them its owner's, and each line has a header. A header, its lines
and the record of a success are committed one after the other, so between these the tables hold what
the progress of the writer says. -/

namespace Intake

namespace Tables

/-- A document in the tables: there is a header of its kind under the identity, that header and the
lines that name it belong to the owner, and there are `count` such lines. -/
structure Holds (t : Tables) (kind : DocumentKind) (id : Nat) (clientId : Option Int)
    (count : Nat) : Prop where
  header : ∃ header ∈ t.headersOf kind, header.id? = some id
  headerOwner : ∀ header ∈ t.headersOf kind, header.id? = some id →
    header.get? "client_id" = clientId.map .whole
  lineOwner : ∀ line ∈ t.linesOf kind, line.get? "header_id" = some (.identifier id) →
    line.get? "client_id" = clientId.map .whole
  count : t.countLines kind id = count

/-- The document of a success is in the tables. -/
def Backs (t : Tables) (o : Outcome) : Prop :=
  ∃ kind id, o.kindTag = some kind.tag ∧ o.headerId = some id ∧
    t.Holds kind id o.clientId o.lineCount

/-- The header that a line names is in the tables. -/
def Carries (t : Tables) (line : Record) : Prop :=
  ∃ kind id, line.type = kind.lineType ∧ line.get? "header_id" = some (.identifier id) ∧
    ∃ header ∈ t.headersOf kind, header.id? = some id

/-- Tables in which every success on record and every line has what it is about. -/
structure Consistent (t : Tables) : Prop where
  successes : ∀ o ∈ t.outcomes, o.status = .success → t.Backs o
  lines : ∀ line ∈ t.lines, t.Carries line

variable {t : Tables} {kind : DocumentKind} {id : Nat} {clientId : Option Int} {count : Nat}

theorem mem_headersOf {header : Record} :
    header ∈ t.headersOf kind ↔ header ∈ t.headers ∧ header.type = kind.headerType := by
  simp [headersOf]

theorem mem_linesOf {line : Record} :
    line ∈ t.linesOf kind ↔ line ∈ t.lines ∧ line.type = kind.lineType := by
  simp [linesOf]

/-- An identity that no line names has no lines. -/
theorem countLines_eq_zero
    (h : ∀ line ∈ t.lines, line.get? "header_id" ≠ some (.identifier id)) :
    t.countLines kind id = 0 := by
  simp only [countLines, List.length_eq_zero_iff, List.filter_eq_nil_iff]
  intro line hMem
  simpa using h line (mem_linesOf.mp hMem).1

theorem Holds.putOutcome (h : t.Holds kind id clientId count) (o : Outcome) :
    (t.putOutcome o).Holds kind id clientId count :=
  ⟨h.header, h.headerOwner, h.lineOwner, h.count⟩

section Header

variable {header : Record}

theorem mem_headersOf_putHeader {other : Record}
    (h : other ∈ (t.putHeader header).headersOf kind) :
    other = header ∨ other ∈ t.headersOf kind := by
  obtain ⟨hMem, hType⟩ := mem_headersOf.mp h
  rcases mem_put hMem with hNew | hOld
  · exact .inl hNew
  · exact .inr (mem_headersOf.mpr ⟨hOld, hType⟩)

theorem putHeader_mem_headersOf (hType : header.type = kind.headerType) :
    header ∈ (t.putHeader header).headersOf kind :=
  mem_headersOf.mpr ⟨mem_put_self (by simp), hType⟩

/-- A header is not lost when another one is stored. -/
theorem exists_headersOf_putHeader (h : ∃ other ∈ t.headersOf kind, other.id? = some id) :
    ∃ other ∈ (t.putHeader header).headersOf kind, other.id? = some id := by
  obtain ⟨other, hMem, hId⟩ := h
  obtain ⟨hOld, hType⟩ := mem_headersOf.mp hMem
  by_cases hSame : (other.id? == header.id? && other.type == header.type) = true
  · obtain ⟨hSameId, hSameType⟩ : other.id? = header.id? ∧ other.type = header.type := by
      simpa using hSame
    exact ⟨header, putHeader_mem_headersOf (hSameType ▸ hType), hSameId ▸ hId⟩
  · exact ⟨other, mem_headersOf.mpr ⟨mem_put_of_not hOld (by simpa using hSame), hType⟩, hId⟩

/-- A header under another identity changes nothing about a document. -/
theorem Holds.putHeader (h : t.Holds kind id clientId count) (hOther : header.id? ≠ some id) :
    (t.putHeader header).Holds kind id clientId count where
  header := exists_headersOf_putHeader h.header
  headerOwner := by
    intro other hMem hId
    rcases mem_headersOf_putHeader hMem with rfl | hOld
    · exact absurd hId hOther
    · exact h.headerOwner other hOld hId
  lineOwner := h.lineOwner
  count := h.count

/-- A header under an identity that is not in use is a document without lines. -/
theorem Holds.of_putHeader (hType : header.type = kind.headerType) (hId : header.id? = some id)
    (hOwner : header.get? "client_id" = clientId.map .whole)
    (hNoHeader : ∀ other ∈ t.headers, other.id? ≠ some id)
    (hNoLine : ∀ line ∈ t.lines, line.get? "header_id" ≠ some (.identifier id)) :
    (t.putHeader header).Holds kind id clientId 0 where
  header := ⟨header, putHeader_mem_headersOf hType, hId⟩
  headerOwner := by
    intro other hMem hSame
    rcases mem_headersOf_putHeader hMem with rfl | hOld
    · exact hOwner
    · exact absurd hSame (hNoHeader other (mem_headersOf.mp hOld).1)
  lineOwner := fun line hMem hNamed => absurd hNamed (hNoLine line (mem_linesOf.mp hMem).1)
  count := countLines_eq_zero hNoLine

theorem Carries.putHeader {line : Record} (h : t.Carries line) :
    (t.putHeader header).Carries line := by
  obtain ⟨kind, id, hType, hHeaderId, hHeader⟩ := h
  exact ⟨kind, id, hType, hHeaderId, exists_headersOf_putHeader hHeader⟩

end Header

section Lines

variable {more : List Record}

theorem linesOf_addLines :
    (t.addLines more).linesOf kind = t.linesOf kind ++ more.filter (·.type == kind.lineType) :=
  List.filter_append _ _

theorem countLines_addLines :
    (t.addLines more).countLines kind id =
      t.countLines kind id + { lines := more : Tables }.countLines kind id := by
  rw [countLines, linesOf_addLines, List.filter_append, List.length_append]
  rfl

/-- Lines of other headers change nothing about a document. -/
theorem Holds.addLines_other (h : t.Holds kind id clientId count)
    (hOther : ∀ line ∈ more, line.get? "header_id" ≠ some (.identifier id)) :
    (t.addLines more).Holds kind id clientId count where
  header := h.header
  headerOwner := h.headerOwner
  lineOwner := by
    intro line hMem hHeaderId
    obtain ⟨hLine, hType⟩ := mem_linesOf.mp hMem
    rcases List.mem_append.mp hLine with hOld | hNew
    · exact h.lineOwner line (mem_linesOf.mpr ⟨hOld, hType⟩) hHeaderId
    · exact absurd hHeaderId (hOther line hNew)
  count := by
    have hNone : { lines := more : Tables }.countLines kind id = 0 := countLines_eq_zero hOther
    rw [countLines_addLines, hNone, Nat.add_zero, h.count]

/-- The lines of a document are counted, each of them. -/
theorem Holds.addLines (h : t.Holds kind id clientId count)
    (hMore : ∀ line ∈ more, line.type = kind.lineType ∧
      line.get? "header_id" = some (.identifier id) ∧
      line.get? "client_id" = clientId.map .whole) :
    (t.addLines more).Holds kind id clientId (count + more.length) where
  header := h.header
  headerOwner := h.headerOwner
  lineOwner := by
    intro line hMem hHeaderId
    obtain ⟨hLine, hType⟩ := mem_linesOf.mp hMem
    rcases List.mem_append.mp hLine with hOld | hNew
    · exact h.lineOwner line (mem_linesOf.mpr ⟨hOld, hType⟩) hHeaderId
    · exact (hMore line hNew).2.2
  count := by
    have hAll : { lines := more : Tables }.countLines kind id = more.length := by
      have hLines : { lines := more : Tables }.linesOf kind = more := by
        rw [linesOf, List.filter_eq_self]
        exact fun line hLine => by simp [(hMore line hLine).1]
      rw [countLines, hLines, List.length_filter_eq_length_iff]
      exact fun line hLine => by simp [(hMore line hLine).2.1]
    rw [countLines_addLines, hAll, h.count]

theorem Carries.addLines {line : Record} (h : t.Carries line) : (t.addLines more).Carries line := h

end Lines

namespace Consistent

/-- The record of an attempt may be stored if it is of no success, or of one that the tables back. -/
theorem putOutcome {o : Outcome} (h : t.Consistent) (hBacked : o.status = .success → t.Backs o) :
    (t.putOutcome o).Consistent where
  successes := by
    intro other hMem hSuccess
    have hOther : t.Backs other := by
      rcases mem_put hMem with rfl | hOld
      · exact hBacked hSuccess
      · exact h.successes other hOld hSuccess
    obtain ⟨kind, id, hKind, hId, hHolds⟩ := hOther
    exact ⟨kind, id, hKind, hId, hHolds.putOutcome o⟩
  lines := h.lines

/-- A header may be stored under an identity that no success on record names. -/
theorem putHeader {header : Record} (h : t.Consistent)
    (hFree : ∀ o ∈ t.outcomes, o.status = .success → o.headerId ≠ header.id?) :
    (t.putHeader header).Consistent where
  successes := by
    intro o hMem hSuccess
    obtain ⟨kind, id, hKind, hId, hHolds⟩ := h.successes o hMem hSuccess
    have hOther : header.id? ≠ some id := by
      rw [← hId]
      exact Ne.symm (hFree o hMem hSuccess)
    exact ⟨kind, id, hKind, hId, hHolds.putHeader hOther⟩
  lines := fun line hMem => (h.lines line hMem).putHeader

/-- Lines may be stored if the tables have their headers and no success on record names these. -/
theorem addLines {more : List Record} (h : t.Consistent) (hCarried : ∀ line ∈ more, t.Carries line)
    (hFree : ∀ o ∈ t.outcomes, o.status = .success → ∀ line ∈ more,
      line.get? "header_id" ≠ o.headerId.map .identifier) :
    (t.addLines more).Consistent where
  successes := by
    intro o hMem hSuccess
    obtain ⟨kind, id, hKind, hId, hHolds⟩ := h.successes o hMem hSuccess
    refine ⟨kind, id, hKind, hId, hHolds.addLines_other fun line hLine => ?_⟩
    have hOther := hFree o hMem hSuccess line hLine
    rw [hId] at hOther
    exact hOther
  lines := by
    intro line hMem
    rcases List.mem_append.mp hMem with hOld | hNew
    · exact h.lines line hOld
    · exact hCarried line hNew

end Consistent

end Tables

end Intake
