import Intake.Config.Source
import Intake.Proofs.Results

/-! What reading a configuration breaks down with. Whatever is wrong with a feed, with a rule or
with a chain is a reason to refuse the configuration. Three things are no such reason, but faults: a
value without members in place of the configuration, one without items in place of its rules, and a
whole number with too many digits. -/

namespace Intake

/-- Whether a value has items to go through. -/
def Json.hasItems : Json → Bool
  | list _ | text _ | object _ => true
  | _ => false

namespace Config

/-- A refused configuration is reported as one, whatever the reason is. -/
theorem Refusal.kind_problem (r : Refusal) : r.problem.kind = .configuration := by
  cases r <;> rfl

/-- What a value breaks down with where a configuration is looked for: it has no members, or its
feed is in order and there are no items where its rules should be. -/
inductive Breaks : Json → Fault → Prop
  | noMembers {j : Json} (h : ∀ members, j ≠ .object members) : Breaks j (.noMembers j.shapeName)
  | noItems {members : List (String × Json)} {feed : Interface} {rules : Json}
      (hFeed : readInterface (memberOr members "interface" (.object [])) = .ok feed)
      (hRules : memberOr members "rules" (.list []) = rules) (h : rules.hasItems = false) :
      Breaks (.object members) (.noItems rules.shapeName)

/-- What a source breaks down with. -/
inductive Source.Breaks : Source → Fault → Prop
  | value {j : Json} {f : Fault} (h : Config.Breaks j f) : Source.Breaks (.value j) f
  | digits {path text : String} {count : Nat}
      (h : Json.ofChars (withPlainLineEnds text.toList) = .error (.tooManyDigits count)) :
      Source.Breaks (.file path (.ok text)) (.unreadableWhole count)
  | text {path text : String} {j : Json} {f : Fault}
      (hJson : Json.ofChars (withPlainLineEnds text.toList) = .ok j) (h : Config.Breaks j f) :
      Source.Breaks (.file path (.ok text)) f

section Values

variable {f : Fault}

theorem readPart_ne_fault (part : Part) (j : Json) : readPart part j ≠ .error (.fault f) := by
  unfold readPart
  split
  · split <;> nofun
  · nofun

theorem readRule_ne_fault (j : Json) : readRule j ≠ .error (.fault f) := fun h =>
  readPart_ne_fault .rule j (map_eq_error.mp h)

theorem readInterface_ne_fault (j : Json) : readInterface j ≠ .error (.fault f) := fun h =>
  readPart_ne_fault .interface j (map_eq_error.mp h)

theorem check_ne_fault (c : Config) : check c ≠ .error (.fault f) := by
  unfold check
  split
  · nofun
  · split <;> nofun

theorem items_eq_fault {j : Json} :
    items j = .error (.fault f) ↔ j.hasItems = false ∧ f = .noItems j.shapeName := by
  cases j <;> simp [items, Json.hasItems, eq_comm]

theorem ofJson_eq_fault {j : Json} : ofJson j = .error (.fault f) ↔ Breaks j f := by
  constructor
  · intro h
    cases j with
    | object members =>
      rcases bind_eq_error.mp h with hFeed | ⟨feed, hFeed, h⟩
      · exact absurd hFeed (readInterface_ne_fault _)
      rcases bind_eq_error.mp h with hItems | ⟨items, -, h⟩
      · obtain ⟨hNone, rfl⟩ := items_eq_fault.mp hItems
        exact .noItems hFeed rfl hNone
      rcases bind_eq_error.mp h with hRules | ⟨rules, -, hCheck⟩
      · obtain ⟨item, -, hRule⟩ := exists_of_mapM_eq_error hRules
        exact absurd hRule (readRule_ne_fault item)
      · exact absurd hCheck (check_ne_fault _)
    | _ =>
      cases h
      exact .noMembers nofun
  · intro h
    cases h with
    | noMembers hNone =>
      cases j with
      | object members => exact absurd rfl (hNone members)
      | _ => rfl
    | @noItems members feed rules hFeed hRules hNone =>
      rw [ofJson, hFeed, hRules]
      exact bind_eq_error.mpr (.inr ⟨feed, rfl,
        bind_eq_error.mpr (.inl (items_eq_fault.mpr ⟨hNone, rfl⟩))⟩)

end Values

section Texts

variable {path text : String}

theorem readText_eq_ok {j : Json} :
    readText path text = .ok j ↔ Json.ofChars (withPlainLineEnds text.toList) = .ok j := by
  unfold readText
  dsimp only
  split <;> simp_all

theorem readText_eq_fault {f : Fault} :
    readText path text = .error (.fault f) ↔ ∃ count,
      Json.ofChars (withPlainLineEnds text.toList) = .error (.tooManyDigits count) ∧
        f = .unreadableWhole count := by
  unfold readText
  dsimp only
  split
  · next hRead => simp [hRead]
  · next count hDigits => simp [hDigits, eq_comm]
  · next e hOther hRead =>
    rw [hRead]
    refine iff_of_false nofun ?_
    rintro ⟨count, hDigits, -⟩
    exact hOther count (Except.error.inj hDigits)

end Texts

/-- A source breaks down for what it holds, and is loaded or refused otherwise. -/
theorem Source.read_eq_fault {source : Source} {f : Fault} :
    source.read = .error (.fault f) ↔ source.Breaks f := by
  constructor
  · intro h
    cases source with
    | value j => exact .value (ofJson_eq_fault.mp h)
    | file path content =>
      cases content with
      | error reason => cases h
      | ok text =>
        rcases bind_eq_error.mp h with hText | ⟨j, hText, hJson⟩
        · obtain ⟨count, hDigits, rfl⟩ := readText_eq_fault.mp hText
          exact .digits hDigits
        · exact .text (readText_eq_ok.mp hText) (ofJson_eq_fault.mp hJson)
  · intro h
    cases h with
    | value h => exact ofJson_eq_fault.mpr h
    | digits h => exact bind_eq_error.mpr (.inl (readText_eq_fault.mpr ⟨_, h, rfl⟩))
    | text hJson h =>
      exact bind_eq_error.mpr (.inr ⟨_, readText_eq_ok.mpr hJson, ofJson_eq_fault.mpr h⟩)

end Config

end Intake
