import Intake.Problem
import Intake.Proofs.Record.Targets
import Intake.Proofs.Text.Small

/-! The table of the fields that rules can reach. There is one for every type of records whose
reachable fields can be told apart, and for no other: it has an entry for each of them, in the order
of their declarations. Where two fields cannot be told apart, the first one that is mistaken for an
earlier one is reported, with that.

A name reaches the one field that has the same plain form. Rules may write the letters of a name in
any case, and put underscores, dashes and blanks in or leave them out: for a name in ASCII these
spellings are all the names that have its plain form. -/

namespace Intake

/-- Whether a character of a name does not count. -/
def isSeparator (c : Char) : Bool := c == '_' || c == '-' || Text.isBlank c

/-- The characters of a name that count. -/
def counting (name : List Char) : List Char := name.filter fun c => !isSeparator c

theorem plainName_eq (name : String) :
    plainName name = String.ofList (Text.lowered (counting name.toList)) := rfl

/-- The name `s` is the name `t` in another spelling: separators are added or left out, and letters
change their case, so that a character stands for one with the same small form. -/
inductive Respells : List Char → List Char → Prop where
  | nil : Respells [] []
  | added {c : Char} {s t : List Char} (hSeparator : isSeparator c) (h : Respells s t) :
      Respells (c :: s) t
  | omitted {d : Char} {s t : List Char} (hSeparator : isSeparator d) (h : Respells s t) :
      Respells s (d :: t)
  | recased {c d : Char} {s t : List Char} (hForm : Text.lowerForm c = Text.lowerForm d)
      (h : Respells s t) : Respells (c :: s) (d :: t)

section Separators

variable {c d : Char}

theorem lowerForm_of_isSeparator (h : isSeparator c) : Text.lowerForm c = [c] := by
  simp only [isSeparator, Bool.or_eq_true, beq_iff_eq] at h
  rcases h with (rfl | rfl) | hBlank
  · decide +kernel
  · decide +kernel
  · exact Text.lowerForm_of_isBlank hBlank

theorem isSeparator_of_settled (h : Text.Settled c) : isSeparator c = false := by
  simp [isSeparator, h.notBlank, h.notJoiner]

/-- Only a separator itself has a separator as its small form. -/
theorem eq_of_lowerForm_eq (hSeparator : isSeparator c)
    (h : Text.lowerForm c = Text.lowerForm d) : c = d := by
  rw [lowerForm_of_isSeparator hSeparator] at h
  rcases Text.lowerForm_settled d with hOwn | hSettled
  · exact List.singleton_inj.mp (h.trans hOwn)
  · have hNot := isSeparator_of_settled (hSettled c (h ▸ List.mem_singleton_self c))
    rw [hNot] at hSeparator
    cases hSeparator

theorem isSeparator_congr (h : Text.lowerForm c = Text.lowerForm d) :
    isSeparator c = isSeparator d := by
  by_cases hc : isSeparator c
  · rw [eq_of_lowerForm_eq hc h]
  · by_cases hd : isSeparator d
    · rw [eq_of_lowerForm_eq hd h.symm]
    · rw [Bool.eq_false_iff.mpr hc, Bool.eq_false_iff.mpr hd]

end Separators

section Spelling

variable {c d : Char} {s t : List Char}

theorem counting_separator (h : isSeparator c) : counting (c :: s) = counting s :=
  List.filter_cons_of_neg (by simp [h])

theorem counting_cons (h : ¬isSeparator c) : counting (c :: s) = c :: counting s :=
  List.filter_cons_of_pos (by simp [h])

/-- The characters that count in a spelling have the small forms of those that count in the
name. -/
theorem Respells.map_counting (h : Respells s t) :
    (counting s).map Text.lowerForm = (counting t).map Text.lowerForm := by
  induction h with
  | nil => rfl
  | added hSeparator _ ih => rwa [counting_separator hSeparator]
  | omitted hSeparator _ ih => rwa [counting_separator hSeparator]
  | @recased c d s t hForm _ ih =>
    have hSame := isSeparator_congr hForm
    by_cases hSeparator : isSeparator c
    · rwa [counting_separator hSeparator, counting_separator (hSame ▸ hSeparator)]
    · rw [counting_cons hSeparator, counting_cons (hSame ▸ hSeparator), List.map_cons,
        List.map_cons, hForm, ih]

theorem respells_of_map_counting
    (h : (counting s).map Text.lowerForm = (counting t).map Text.lowerForm) : Respells s t := by
  induction s generalizing t with
  | nil =>
    induction t with
    | nil => exact .nil
    | cons d t ih =>
      by_cases hSeparator : isSeparator d
      · exact .omitted hSeparator (ih (by rwa [counting_separator hSeparator] at h))
      · rw [counting_cons hSeparator] at h
        cases h
  | cons c s ihs =>
    by_cases hSeparator : isSeparator c
    · exact .added hSeparator (ihs (by rwa [counting_separator hSeparator] at h))
    · rw [counting_cons hSeparator] at h
      -- The separators in `t` in front of the character that stands for `c` come first.
      induction t with
      | nil => cases h
      | cons d t iht =>
        by_cases hOther : isSeparator d
        · exact .omitted hOther (iht (by rwa [counting_separator hOther] at h))
        · rw [counting_cons hOther] at h
          obtain ⟨hForm, hRest⟩ := List.cons.inj h
          exact .recased hForm (ihs hRest)

/-- The names that have the plain form of a name in ASCII are its spellings. -/
theorem plainName_eq_iff_respells {name other : String} (hAscii : ∀ c ∈ name.toList, c.val < 128) :
    plainName other = plainName name ↔ Respells other.toList name.toList := by
  have hCounting : ∀ c ∈ counting name.toList, c.val < 128 := fun c hc =>
    hAscii c (List.mem_filter.mp hc).1
  rw [plainName_eq, plainName_eq, String.ofList_inj, Text.lowered_eq_lowered_iff hCounting]
  exact ⟨respells_of_map_counting, Respells.map_counting⟩

end Spelling

namespace RecordType

/-- Two fields within the reach of rules, one declared in front of the other, go by the same name. -/
def IsAmbiguous (t : RecordType) : Prop :=
  ∃ f g, [f, g].Sublist t.fields ∧ f.name ∉ protectedFields ∧ g.name ∉ protectedFields ∧
    plainName f.name = plainName g.name

/-- The clash of the first reachable field that goes by the name of one in front of it, with that
one. -/
inductive FirstClash (t : RecordType) : Clash → Prop where
  | found {before after : List Field} {first second : Field}
      (hFields : t.reachable = before ++ second :: after) (hDistinct : AreDistinct before)
      (hFirst : first ∈ before) (hSame : plainName first.name = plainName second.name) :
      FirstClash t ⟨t.name, first.name, second.name⟩

/-- A table of the fields of a type that rules can reach. What reaches a field whose name is in ASCII
are the spellings of its name. -/
structure IsTable (t : RecordType) (table : List Field) : Prop where
  entries : table = t.fields.filter fun f => f.name ∉ protectedFields
  distinct : AreDistinct table
  finds : ∀ name field, fieldAmong table name = some field ↔
    field ∈ t.fields ∧ field.name ∉ protectedFields ∧ plainName field.name = plainName name
  misses : ∀ name, fieldAmong table name = none ↔
    ∀ field ∈ t.fields, field.name ∉ protectedFields → plainName field.name ≠ plainName name
  respelled : ∀ field ∈ t.fields, field.name ∉ protectedFields →
    (∀ c ∈ field.name.toList, c.val < 128) →
    ∀ name, fieldAmong table name = some field ↔ Respells name.toList field.name.toList

variable {t : RecordType} {table : List Field} {clash : Clash}

theorem isAmbiguous_iff : t.IsAmbiguous ↔ ¬AreDistinct t.reachable := by
  rw [AreDistinct, reachable, List.pairwise_filter, List.pairwise_iff_forall_sublist]
  simp [IsAmbiguous]

theorem targets_eq_ok_iff :
    t.targets = .ok table ↔ AreDistinct t.reachable ∧ table = t.reachable := by
  rw [targets, ← clash?_eq_none_iff]
  cases t.clash? with
  | none => simp [eq_comm]
  | some clash => simp

theorem firstClash_of_targets (h : t.targets = .error clash) : t.FirstClash clash := by
  unfold targets at h
  cases hClash : t.clash? with
  | none =>
    rw [hClash] at h
    cases h
  | some found =>
    rw [hClash] at h
    cases h
    obtain ⟨⟨first, second⟩, hFound, rfl⟩ := Option.map_eq_some_iff.mp hClash
    obtain ⟨before, after, hFields, hBefore, hFirst⟩ := clashAmong_eq_some .nil hFound
    obtain ⟨hMem, hSame⟩ := fieldAmong_found hFirst
    exact .found hFields hBefore hMem hSame

theorem isTable_reachable (h : AreDistinct t.reachable) : t.IsTable t.reachable where
  entries := by simp [reachable]
  distinct := h
  finds name field := by
    rw [fieldAmong_eq_some_iff h, mem_reachable, and_assoc]
  misses name := by
    simp [fieldAmong_eq_none_iff, mem_reachable]
  respelled field hField hReached hAscii name := by
    rw [fieldAmong_eq_some_iff h, mem_reachable, ← plainName_eq_iff_respells hAscii, eq_comm]
    simp [hField, hReached]

/-- A type has no table exactly if two of its reachable fields go by one name, and then the first
such field is reported, as a fault of the configuration. Otherwise each name reaches the one field
that goes by it. -/
theorem targets_isTable (t : RecordType) :
    ((∃ clash, t.targets = .error clash) ↔ t.IsAmbiguous) ∧
      (∀ clash, t.targets = .error clash →
        t.FirstClash clash ∧ clash.problem.kind = .configuration) ∧
      ∀ table, t.targets = .ok table → t.IsTable table := by
  refine ⟨?_, fun clash hClash => ⟨firstClash_of_targets hClash, rfl⟩, fun table hTable => ?_⟩
  · rw [isAmbiguous_iff]
    cases hTargets : t.targets with
    | error clash =>
      have hNot : ¬AreDistinct t.reachable := fun h => by
        rw [targets_eq_ok_iff.mpr ⟨h, rfl⟩] at hTargets
        cases hTargets
      simp [hNot]
    | ok table => simp [(targets_eq_ok_iff.mp hTargets).1]
  · obtain ⟨hDistinct, rfl⟩ := targets_eq_ok_iff.mp hTable
    exact isTable_reachable hDistinct

/-- A name with a space that is not broken, the Kelvin sign and no underscores reaches a field of the
headers of orders; their identity is out of reach. Two fields that differ in an underscore and a
capital clash. -/
theorem targets_isTable_pickup :
    (∃ table, orderHeader.targets = .ok table ∧
      fieldAmong table "PIC\u212aUP\u00a0Start-dttm" = some (.vacant "pickup_start_dttm" .dateTime) ∧
      fieldAmong table "ID" = none) ∧
    ∃ clash, (⟨"Item", "ITEMS", [.vacant "item_no" .text, .vacant "itemNo" .text]⟩ :
      RecordType).targets = .error clash := by
  have hTargets := (DocumentKind.headerType_isOpen .order).targets
  have hTable := (targets_isTable orderHeader).2.2 _ hTargets
  have hAscii : ("pickup_start_dttm".toList.all fun c => decide (c.val < 128)) = true := by decide
  refine ⟨⟨_, hTargets, ?_, ?_⟩, (targets_isTable _).1.mpr ?_⟩
  · refine (hTable.respelled _ ?_ (by decide) ?_ _).mpr ?_
    · decide +kernel
    · exact fun c hc => of_decide_eq_true (List.all_eq_true.mp hAscii c hc)
    · exact respells_of_map_counting (by decide +kernel)
  · exact (hTable.misses _).mpr (by decide +kernel)
  · exact ⟨_, _, .refl _, by decide, by decide, by decide +kernel⟩

end RecordType

end Intake
