import WideColumn.Config.Validation
import WideColumn.Proofs.Except
import WideColumn.Proofs.Text.Trim

/-! The texts of settings. A value needs one where it is read, unless it is null; a setting is there
when something is left of its text without the blanks around it. -/
namespace WideColumn.Config

open Configured (isNull items? shown)

variable {α : Type} [Configured α] {value : α} {settings : OrderedMap String α} {key text : String}

/-- A value that can be read: it has a text, or is null and needs none. -/
def Legible (value : α) : Prop := isNull value = true ∨ ∃ cs, shown value = .ok cs

/-- A setting that can be read, or is missing. -/
def LegibleAt (settings : OrderedMap String α) (key : String) : Prop :=
  ∀ value, settings.get? key = some value → Legible value

/-- The text of a setting that is not null. -/
def Tells (settings : OrderedMap String α) (key : String) (cs : List Char) : Prop :=
  ∃ value, settings.get? key = some value ∧ isNull value = false ∧ shown value = .ok cs

/-- A setting is there: it is not null, and its text has a character that is not blank. -/
def Given (settings : OrderedMap String α) (key : String) : Prop :=
  ∃ cs, Tells settings key cs ∧ ∃ c ∈ cs, Text.isBlank c = false

theorem isBlankText_eq_false_iff {cs : List Char} :
    Text.isBlankText cs = false ↔ ∃ c ∈ cs, Text.isBlank c = false := by
  simp [Text.isBlankText]

/-! One value. -/

theorem exists_visible?_iff : (∃ text?, visible? value = .ok text?) ↔ Legible value := by
  unfold visible? Legible
  cases isNull value with
  | true => simp
  | false => simp [exists_map_iff]

theorem visible?_eq_some_iff : visible? value = .ok (some text) ↔ isNull value = false ∧
    ∃ cs, shown value = .ok cs ∧ (∃ c ∈ cs, Text.isBlank c = false) ∧
      String.ofList (Text.trim cs) = text := by
  unfold visible?
  cases isNull value with
  | true => simp
  | false =>
    simp only [Bool.false_eq_true, if_false, map_eq_ok_iff, true_and]
    refine exists_congr fun cs => and_congr_right fun _ => ?_
    rw [← isBlankText_eq_false_iff]
    cases Text.isBlankText cs with
    | true => simp
    | false => simp

/-- What is left of a text that is not blank. -/
theorem trim_ne_nil {cs : List Char} (visible : ∃ c ∈ cs, Text.isBlank c = false) :
    Text.trim cs ≠ [] := by
  rw [ne_eq, Text.trim_eq_nil_iff, isBlankText_eq_false_iff.mpr visible]
  exact Bool.false_ne_true

/-! One setting. -/

/-- The text of a setting that is there, without the blanks around it. -/
def textAt? (settings : OrderedMap String α) (key : String) : Option String :=
  (visibleAt? settings key).toOption.join

theorem exists_visibleAt?_iff :
    (∃ text?, visibleAt? settings key = .ok text?) ↔ LegibleAt settings key := by
  unfold visibleAt? LegibleAt
  cases settings.get? key with
  | none => simp
  | some value => simp [exists_visible?_iff]

theorem textAt?_eq_some_iff : textAt? settings key = some text ↔
    ∃ cs, Tells settings key cs ∧ (∃ c ∈ cs, Text.isBlank c = false) ∧
      String.ofList (Text.trim cs) = text := by
  rw [textAt?, toOption_join_eq_some]
  unfold visibleAt? Tells
  cases settings.get? key with
  | none => simp
  | some value => simp [visible?_eq_some_iff, and_assoc, exists_and_left]

theorem given_iff : Given settings key ↔ (textAt? settings key).isSome = true := by
  rw [Option.isSome_iff_exists]
  simp only [textAt?_eq_some_iff]
  constructor
  · rintro ⟨cs, tells, visible⟩
    exact ⟨_, cs, tells, visible, rfl⟩
  · rintro ⟨_, cs, tells, visible, -⟩
    exact ⟨cs, tells, visible⟩

instance : Decidable (Given settings key) := decidable_of_iff _ given_iff.symm

theorem Given.legible (given : Given settings key) : LegibleAt settings key := by
  obtain ⟨cs, ⟨value, present, -, text⟩, -⟩ := given
  intro other found
  cases present.symm.trans found
  exact .inr ⟨cs, text⟩

/-! The coordination settings. -/

/-- The coordination settings that are not there, in their order. -/
def missing (settings : OrderedMap String α) : List String :=
  coordinationKeys.filter fun key => ¬ Given settings key

theorem missing_eq_nil_iff :
    missing settings = [] ↔ ∀ key ∈ coordinationKeys, Given settings key := by
  simp [missing]

theorem missing_eq_iff :
    missing settings = coordinationKeys ↔ ∀ key ∈ coordinationKeys, ¬ Given settings key := by
  simp [missing]

theorem missingAt?_join (legible : LegibleAt settings key) :
    (missingAt? settings key).toOption.join =
      Option.guard (fun key => decide (¬ Given settings key)) key := by
  obtain ⟨text?, evaluated⟩ := exists_visibleAt?_iff.mpr legible
  have here : textAt? settings key = text? := by simp [textAt?, evaluated, Except.toOption]
  have given : Given settings key ↔ text?.isSome = true := here ▸ given_iff
  cases text? with
  | none => simp [missingAt?, evaluated, Except.map, Except.toOption, Option.guard, given]
  | some text => simp [missingAt?, evaluated, Except.map, Except.toOption, Option.guard, given]

theorem filterMapM_missingAt? {keys : List String} :
    coordinationKeys.filterMapM (missingAt? settings) = .ok keys ↔
      (∀ key ∈ coordinationKeys, LegibleAt settings key) ∧ missing settings = keys := by
  have each (key : String) :
      (∃ key?, missingAt? settings key = .ok key?) ↔ LegibleAt settings key :=
    exists_map_iff.trans exists_visibleAt?_iff
  rw [filterMapM_eq_ok_iff]
  simp only [each]
  refine and_congr_right fun legible => ?_
  rw [List.filterMap_congr fun key member => missingAt?_join (legible key member),
    List.filterMap_eq_filter, missing]

end WideColumn.Config
