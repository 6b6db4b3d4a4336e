import Intake.Trail
import Intake.Proofs.Text.Parts

/-! What the trail of an attempt keeps of messages, and what it renders once any of them have been
added to it. The messages that say something are joined. A text that is too long is cut; the mark
stands within the limit if the limit has room for the mark, and what is rendered then stays as it
is. A lower limit is exceeded, and every further message makes the rendered text longer. -/

namespace Intake

/-- `cut` is the beginning of a text with the mark behind it, of `length` characters in all. -/
structure IsCut (text : String) (length : Int) (cut : String) : Prop where
  length_eq : (cut.length : Int) = length
  marked : ∃ front, front.toList <+: text.toList ∧ cut = front ++ Trail.cutMark

section Truncated

variable {message : String} {limit n : Int}

theorem length_cutMark : Trail.cutMark.length = 3 := by decide

theorem truncated_of_le (h : (message.length : Int) ≤ limit) : truncated message limit = message :=
  if_pos h

theorem truncated_of_lt (h : limit < message.length) :
    truncated message limit = firstChars message (limit - 3) ++ Trail.cutMark := by
  rw [truncated, if_neg (by omega), length_cutMark]
  rfl

theorem firstChars_isPrefix (message : String) (n : Int) :
    (firstChars message n).toList <+: message.toList := by
  rw [firstChars, String.toList_ofList]
  exact List.take_prefix _ _

theorem length_firstChars (hFront : 0 ≤ n) :
    (firstChars message n).length = min n.toNat message.length := by
  rw [firstChars, if_pos hFront, String.length_ofList, List.length_take, String.length_toList]

theorem length_firstChars_neg (hEnd : n < 0) :
    (firstChars message n).length = (message.length + n : Int).toNat := by
  rw [firstChars, if_neg (by omega), String.length_ofList, List.length_take, String.length_toList]
  omega

theorem firstChars_append (hFront : 0 ≤ n) (hInside : n ≤ message.length) (more : String) :
    firstChars (message ++ more) n = firstChars message n := by
  have hTake : n.toNat ≤ message.toList.length := by
    rw [String.length_toList]
    omega
  rw [firstChars, firstChars, if_pos hFront, if_pos hFront, String.toList_append,
    List.take_append_of_le_length hTake]

theorem truncated_isCut (hMark : 3 ≤ limit) (hLong : limit < message.length) :
    IsCut message limit (truncated message limit) := by
  rw [truncated_of_lt hLong]
  refine ⟨?_, _, firstChars_isPrefix _ _, rfl⟩
  rw [String.length_append, length_cutMark, length_firstChars (by omega)]
  omega

/-- Below the length of the mark, the limit only says how many characters the cut takes away. -/
theorem truncated_isCut_belowMark (hMark : limit < 3) (hLong : limit < message.length) :
    IsCut message (max 3 (message.length + limit)) (truncated message limit) := by
  rw [truncated_of_lt hLong]
  refine ⟨?_, _, firstChars_isPrefix _ _, rfl⟩
  rw [String.length_append, length_cutMark, length_firstChars_neg (by omega)]
  omega

/-- What stands behind the place of the cut does not count. -/
theorem truncated_append (hMark : 3 ≤ limit) (hLong : limit < message.length) (more : String) :
    truncated (message ++ more) limit = truncated message limit := by
  have hLonger : limit < (message ++ more).length := by
    rw [String.length_append]
    omega
  rw [truncated_of_lt hLong, truncated_of_lt hLonger, firstChars_append (by omega) (by omega)]

/-- The mark of a cut message has three characters, so no shorter limit can be kept to. -/
theorem length_truncated (hLimit : 3 ≤ limit) :
    ((truncated message limit).length : Int) ≤ limit := by
  by_cases hShort : (message.length : Int) ≤ limit
  · rwa [truncated_of_le hShort]
  · exact Int.le_of_eq (truncated_isCut hLimit (Int.not_le.mp hShort)).length_eq

theorem truncated_ne_empty (h : message ≠ "") : truncated message limit ≠ "" := by
  unfold truncated
  split
  · exact h
  · intro hNone
    have hEmpty := congrArg String.length hNone
    rw [String.length_append] at hEmpty
    simp [Trail.cutMark] at hEmpty

end Truncated

namespace Text

variable {sep : String}

theorem join_cons {s : String} {rest : List String} (h : rest ≠ []) :
    join sep (s :: rest) = s ++ sep ++ join sep rest := by
  rw [join]
  exact h

theorem join_append {a b : List String} (ha : a ≠ []) (hb : b ≠ []) :
    join sep (a ++ b) = join sep a ++ sep ++ join sep b := by
  induction a with
  | nil => exact absurd rfl ha
  | cons s a ih =>
    cases a with
    | nil => exact join_cons hb
    | cons next a =>
      rw [List.cons_append, join_cons (by simp), ih (List.cons_ne_nil _ _),
        join_cons (List.cons_ne_nil _ _)]
      simp only [String.append_assoc]

end Text

namespace Trail

variable {t : Trail} {message : String}

/-- A message that is not blank makes one entry. -/
theorem add_of_notBlank (h : Text.isBlankText message = false) :
    t.add message = { t with entries := t.entries ++ [Text.trim message] } := by
  simp [add, h]

theorem limit_add (t : Trail) (message : String) : (t.add message).limit = t.limit := by
  unfold add
  split <;> rfl

theorem render_eq_none : t.render = none ↔ t.entries = [] := by
  simp [render]

theorem join_ne_empty {sep : String} {parts : List String} (h : ∃ part ∈ parts, part ≠ "") :
    Text.join sep parts ≠ "" := by
  obtain ⟨part, hMem, hSome⟩ := h
  induction parts with
  | nil => cases hMem
  | cons first rest ih =>
    cases rest with
    | nil =>
      obtain rfl := List.mem_singleton.mp hMem
      exact hSome
    | cons second rest =>
      intro hNone
      rw [Text.join] at hNone
      · obtain ⟨hFirst, hRest⟩ := String.append_eq_empty_iff.mp hNone
        rcases List.mem_cons.mp hMem with rfl | hLater
        · exact hSome (String.append_eq_empty_iff.mp hFirst).1
        · exact ih hLater hRest
      · nofun

theorem render_add (h : Text.isBlankText message = false) :
    ∃ m, (t.add message).render = some m ∧ m ≠ "" := by
  rw [add_of_notBlank h]
  refine ⟨truncated (Text.join separator (t.entries ++ [Text.trim message])) t.limit, ?_, ?_⟩
  · simp [render]
  · exact truncated_ne_empty (join_ne_empty ⟨Text.trim message, by simp, Text.trim_ne_empty h⟩)

theorem length_render {m : String} (hLimit : 3 ≤ t.limit) (h : t.render = some m) :
    (m.length : Int) ≤ t.limit := by
  unfold render at h
  split at h
  · cases h
  · cases h
    exact length_truncated hLimit

/-- What an added message adds to the entries. -/
def entryOf : Option String → Option String
  | some message => if Text.isBlankText message then none else some (Text.trim message)
  | none => none

/-- The trail with more messages added to it, one after the other. -/
def addAll (t : Trail) (messages : List (Option String)) : Trail := messages.foldl add? t

/-- The text of messages: those that are neither missing nor blank, joined. -/
def textOf (messages : List (Option String)) : String :=
  Text.join separator (messages.filterMap entryOf)

variable {limit : Int} {messages more : List (Option String)}

theorem add?_eq (t : Trail) (message : Option String) :
    t.add? message = { t with entries := t.entries ++ (entryOf message).toList } := by
  cases message with
  | none => simp [add?, entryOf]
  | some m =>
    rw [add?, add, entryOf]
    split <;> simp

theorem addAll_eq (t : Trail) (messages : List (Option String)) :
    t.addAll messages = { t with entries := t.entries ++ messages.filterMap entryOf } := by
  induction messages generalizing t with
  | nil => simp [addAll]
  | cons message rest ih =>
    have hRest : t.addAll (message :: rest) = (t.add? message).addAll rest := rfl
    rw [hRest, ih, add?_eq]
    cases hEntry : entryOf message with
    | none => simp [hEntry]
    | some entry => simp [hEntry]

theorem addAll_append (t : Trail) (messages more : List (Option String)) :
    (t.addAll messages).addAll more = t.addAll (messages ++ more) := by
  rw [addAll, addAll, addAll, List.foldl_append]

theorem entryOf_eq_none {message : Option String} :
    entryOf message = none ↔ ∀ m, message = some m → Text.isBlankText m := by
  cases message with
  | none => simp [entryOf]
  | some m => simp [entryOf]

/-- Whether nothing has been said. -/
theorem filterMap_entryOf_eq_nil :
    messages.filterMap entryOf = [] ↔ ∀ m, some m ∈ messages → Text.isBlankText m := by
  rw [List.filterMap_eq_nil_iff]
  constructor
  · intro h m hm
    exact entryOf_eq_none.mp (h _ hm) m rfl
  · intro h message hMessage
    refine entryOf_eq_none.mpr fun m hm => h m (hm ▸ hMessage)

/-- Nothing is rendered as long as nothing has been said. -/
theorem render_addAll_eq_none :
    ((Trail.mk limit []).addAll messages).render = none ↔
      ∀ m, some m ∈ messages → Text.isBlankText m := by
  rw [render_eq_none, addAll_eq, List.nil_append, filterMap_entryOf_eq_nil]

theorem render_addAll_of_ne_nil (h : messages.filterMap entryOf ≠ []) :
    ((Trail.mk limit []).addAll messages).render = some (truncated (textOf messages) limit) := by
  rw [addAll_eq, render, List.nil_append, if_neg (by simpa using h)]
  rfl

theorem textOf_append (h : messages.filterMap entryOf ≠ []) (hMore : more.filterMap entryOf ≠ []) :
    textOf (messages ++ more) = textOf messages ++ (separator ++ textOf more) := by
  rw [textOf, List.filterMap_append, Text.join_append h hMore, String.append_assoc]
  rfl

theorem textOf_append_of_nil (hMore : more.filterMap entryOf = []) :
    textOf (messages ++ more) = textOf messages := by
  rw [textOf, List.filterMap_append, hMore, List.append_nil]
  rfl

theorem filterMap_entryOf_ne_nil (h : ∃ m, some m ∈ messages ∧ Text.isBlankText m = false) :
    messages.filterMap entryOf ≠ [] := by
  obtain ⟨m, hMem, hSaid⟩ := h
  intro hNone
  rw [filterMap_entryOf_eq_nil.mp hNone m hMem] at hSaid
  cases hSaid

theorem entryOf_ne_empty {message : Option String} {entry : String}
    (h : entryOf message = some entry) : entry ≠ "" := by
  cases message with
  | none => cases h
  | some m =>
    rw [entryOf] at h
    split at h
    · cases h
    · next hSaid =>
      cases h
      exact Text.trim_ne_empty (Bool.eq_false_iff.mpr hSaid)

theorem textOf_ne_empty (h : messages.filterMap entryOf ≠ []) : textOf messages ≠ "" := by
  obtain ⟨entry, rest, hEntries⟩ := List.exists_cons_of_ne_nil h
  have hMem : entry ∈ messages.filterMap entryOf := hEntries ▸ List.mem_cons_self
  obtain ⟨message, -, hEntry⟩ := List.mem_filterMap.mp hMem
  exact join_ne_empty ⟨entry, hMem, entryOf_ne_empty hEntry⟩

/-- The text of messages that say nothing has no characters. -/
theorem filterMap_entryOf_ne_nil_of_lt (hLimit : 0 ≤ limit)
    (hLong : limit < (textOf messages).length) : messages.filterMap entryOf ≠ [] := by
  intro hNone
  have hEmpty : textOf messages = "" := by
    rw [textOf, hNone]
    rfl
  rw [hEmpty] at hLong
  exact absurd hLong (by simpa using hLimit)

/-- Once a text is cut with room for the mark, further messages do not change what is rendered. -/
theorem render_addAll_settled (hMark : 3 ≤ limit) (hLong : limit < (textOf messages).length)
    (more : List (Option String)) :
    (((Trail.mk limit []).addAll messages).addAll more).render =
      ((Trail.mk limit []).addAll messages).render := by
  have hSome := filterMap_entryOf_ne_nil_of_lt (by omega) hLong
  have hBoth : (messages ++ more).filterMap entryOf ≠ [] := by
    rw [List.filterMap_append]
    exact List.append_ne_nil_of_left_ne_nil hSome _
  rw [addAll_append, render_addAll_of_ne_nil hBoth, render_addAll_of_ne_nil hSome]
  by_cases hMore : more.filterMap entryOf = []
  · rw [textOf_append_of_nil hMore]
  · rw [textOf_append hSome hMore, truncated_append hMark hLong]

/-- Without room for the mark, every further message that says something changes what is rendered.
-/
theorem render_addAll_unsettled (hLimit : 0 ≤ limit) (hMark : limit < 3)
    (hLong : limit < (textOf messages).length)
    (hMore : ∃ m, some m ∈ more ∧ Text.isBlankText m = false) :
    (((Trail.mk limit []).addAll messages).addAll more).render ≠
      ((Trail.mk limit []).addAll messages).render := by
  have hSome := filterMap_entryOf_ne_nil_of_lt hLimit hLong
  have hMore := filterMap_entryOf_ne_nil hMore
  have hBoth : (messages ++ more).filterMap entryOf ≠ [] := by
    rw [List.filterMap_append]
    exact List.append_ne_nil_of_left_ne_nil hSome _
  have hLength : (textOf messages).length + 3 ≤ (textOf (messages ++ more)).length := by
    have hSeparator : separator.length = 2 := by decide
    have hNext : (textOf more).length ≠ 0 := mt String.length_eq_zero_iff.mp (textOf_ne_empty hMore)
    rw [textOf_append hSome hMore, String.length_append, String.length_append]
    omega
  rw [addAll_append, render_addAll_of_ne_nil hBoth, render_addAll_of_ne_nil hSome]
  intro hSame
  have hBefore := (truncated_isCut_belowMark hMark hLong).length_eq
  have hLonger : limit < (textOf (messages ++ more)).length := by omega
  have hAfter := (truncated_isCut_belowMark hMark hLonger).length_eq
  rw [Option.some.inj hSame] at hAfter
  omega

/-- What a trail renders after any messages, under any limit. It renders nothing exactly if all of
them were missing or blank. It renders their text if this keeps to the limit. A longer text is cut:
to the limit and for good if the limit has room for the mark, and otherwise to more characters than
the limit allows, and to more with each further message that says something. -/
theorem render_addAll (messages : List (Option String)) (hLimit : 0 ≤ limit) :
    let t := (Trail.mk limit []).addAll messages
    let text := textOf messages
    (t.render = none ↔ ∀ m, some m ∈ messages → Text.isBlankText m) ∧
    ((∃ m, some m ∈ messages ∧ Text.isBlankText m = false) → (text.length : Int) ≤ limit →
      t.render = some text) ∧
    (limit < text.length → 3 ≤ limit →
      (∃ cut, t.render = some cut ∧ IsCut text limit cut) ∧
        ∀ more, (t.addAll more).render = t.render) ∧
    (limit < text.length → limit < 3 →
      (∃ cut, t.render = some cut ∧ limit < cut.length ∧
        IsCut text (max 3 (text.length + limit)) cut) ∧
        ∀ more, (∃ m, some m ∈ more ∧ Text.isBlankText m = false) →
          (t.addAll more).render ≠ t.render) := by
  intro t text
  refine ⟨render_addAll_eq_none, fun hSaid hShort => ?_, fun hLong hMark => ⟨?_, ?_⟩,
    fun hLong hMark => ⟨?_, ?_⟩⟩
  · rw [render_addAll_of_ne_nil (filterMap_entryOf_ne_nil hSaid), truncated_of_le hShort]
  · have hSome := filterMap_entryOf_ne_nil_of_lt hLimit hLong
    exact ⟨_, render_addAll_of_ne_nil hSome, truncated_isCut hMark hLong⟩
  · exact render_addAll_settled hMark hLong
  · have hSome := filterMap_entryOf_ne_nil_of_lt hLimit hLong
    have hCut := truncated_isCut_belowMark hMark hLong
    refine ⟨_, render_addAll_of_ne_nil hSome, ?_, hCut⟩
    rw [hCut.length_eq]
    omega
  · exact fun more hMore => render_addAll_unsettled hLimit hMark hLong hMore

/-- Two messages that do not fit into twelve characters, and a third one that changes nothing. -/
theorem render_addAll_twelve :
    let t := (Trail.mk 12 []).addAll [some " first ", none, some " ", some "second"]
    t.render = some "first; se..." ∧ (t.addAll [some "third"]).render = some "first; se..." := by
  intro t
  have hText : textOf [some " first ", none, some " ", some "second"] = "first; second" := by
    decide +kernel
  have hRender : t.render = some "first; se..." := by decide +kernel
  obtain ⟨-, -, hCut, -⟩ := render_addAll [some " first ", none, some " ", some "second"]
    (show (0 : Int) ≤ 12 by decide)
  obtain ⟨-, hSettled⟩ := hCut (by rw [hText]; decide) (by decide)
  exact ⟨hRender, (hSettled _).trans hRender⟩

/-- Under the limit 2 a message of six characters is rendered with eight, and with more once another
message is added. -/
theorem render_addAll_belowMark :
    let t := (Trail.mk 2 []).addAll [some "abcdef"]
    t.render = some "abcde..." ∧ ¬("abcde...".length : Int) ≤ 2 ∧
      (t.addAll [some "x"]).render = some "abcdef; ..." ∧
      (t.addAll [some "x"]).render ≠ t.render := by
  decide +kernel

end Trail

end Intake
