import WideColumn.Proofs.Text.Ascii
import WideColumn.Stream.Setup

/-! Names of publishers and subscribers. The check of a name looks at its characters one by one, but
for a line feed at the end, which it lets pass. -/
namespace WideColumn.Stream

def IsLetter (c : Char) : Prop := 'A' ≤ c ∧ c ≤ 'Z' ∨ 'a' ≤ c ∧ c ≤ 'z'

def IsDigit (c : Char) : Prop := '0' ≤ c ∧ c ≤ '9'

/-- Letters, digits and underscores of ASCII, with a letter among them. -/
structure PlainName (cs : List Char) : Prop where
  filled : cs ≠ []
  chars : ∀ c ∈ cs, IsLetter c ∨ IsDigit c ∨ c = '_'
  letter : ∃ c ∈ cs, IsLetter c

/-- A plain name with a line feed behind it. -/
def BrokenName (cs : List Char) : Prop := ∃ name, PlainName name ∧ cs = name ++ ['\n']

/-- The values that pass for names. -/
def Passes (value : Value) : Prop :=
  ∃ s, value = .text s ∧ (PlainName s.toList ∨ BrokenName s.toList)

variable {c : Char} {cs : List Char}

theorem isAlpha_iff : c.isAlpha = true ↔ IsLetter c := by
  rw [Text.isAlpha_iff_toNat]
  simp only [IsLetter, Char.le_def, UInt32.le_iff_toNat_le]
  rfl

theorem isDigit_iff : c.isDigit = true ↔ IsDigit c := by
  rw [Char.isDigit_iff_toNat]
  simp only [IsDigit, Char.le_def, UInt32.le_iff_toNat_le]
  rfl

theorem isNameChar_iff : isNameChar c = true ↔ IsLetter c ∨ IsDigit c ∨ c = '_' := by
  simp [isNameChar, Char.isAlphanum, isAlpha_iff, isDigit_iff, or_assoc]

theorem plainName_iff : PlainName cs ↔ cs.all isNameChar = true ∧ cs.any Char.isAlpha = true := by
  simp only [List.all_eq_true, List.any_eq_true, isNameChar_iff, isAlpha_iff]
  constructor
  · rintro ⟨-, chars, letter⟩
    exact ⟨chars, letter⟩
  · rintro ⟨chars, letter⟩
    refine ⟨?_, chars, letter⟩
    rintro rfl
    simp at letter

instance : Decidable (PlainName cs) := decidable_of_iff _ plainName_iff.symm

/-- No plain name ends in a line feed. -/
theorem PlainName.last (plain : PlainName cs) : cs.getLast? ≠ some '\n' := by
  intro last
  have char := isNameChar_iff.mpr (plain.chars '\n' (List.mem_of_getLast? last))
  revert char
  decide

theorem BrokenName.not_plain (broken : BrokenName cs) : ¬ PlainName cs := by
  obtain ⟨name, -, rfl⟩ := broken
  intro plain
  exact plain.last List.getLast?_concat

theorem isName_iff (s : String) :
    isName s = true ↔ PlainName s.toList ∨ BrokenName s.toList := by
  rw [isName, Bool.and_eq_true, ← plainName_iff, dropFinalBreak]
  by_cases last : s.toList.getLast? = some '\n'
  · obtain ⟨name, cut⟩ := List.getLast?_eq_some_iff.mp last
    rw [if_pos last, cut, List.dropLast_concat]
    constructor
    · intro plain
      exact .inr ⟨name, plain, rfl⟩
    · rintro (plain | ⟨other, plain, same⟩)
      · exact absurd List.getLast?_concat plain.last
      · rwa [List.append_cancel_right same]
  · rw [if_neg last]
    constructor
    · exact .inl
    · rintro (plain | ⟨name, -, cut⟩)
      · exact plain
      · rw [cut] at last
        exact absurd List.getLast?_concat last

theorem passes_text_iff (s : String) : Passes (.text s) ↔ isName s = true := by
  rw [isName_iff]
  constructor
  · rintro ⟨_, same, passes⟩
    cases same
    exact passes
  · intro passes
    exact ⟨s, rfl, passes⟩

theorem checkName_of_passes {value : Value} (passes : Passes value) : checkName value = .ok () := by
  obtain ⟨s, rfl, -⟩ := id passes
  rw [checkName, if_pos ((passes_text_iff s).mp passes)]

theorem checkName_of_not_passes {value : Value} (fails : ¬ Passes value) :
    checkName value = .error (.name value) := by
  cases value with
  | text s => rw [checkName, if_neg (mt (passes_text_iff s).mpr fails)]
  | _ => rfl

/-- A value passes the check just if it is a plain name, or one with a line feed behind it. The
others, texts or not, are refused with an error that shows them. So on a text the check agrees with
the plain rule unless it is a broken name. Making a publisher or a subscriber goes on to its address
just if the name passes, and otherwise fails for the name, with nothing done. -/
theorem names_checked (name : Value) :
    (checkName name = .ok () ↔ Passes name) ∧
    (¬ Passes name → checkName name = .error (.name name) ∧
      (Fault.setup (.name name)).kind = "ValueError") ∧
    (∀ s, name = .text s →
      ((checkName name = .ok () ↔ PlainName s.toList) ↔ ¬ BrokenName s.toList)) ∧
    ∀ (shared : Option ServiceId) (config : Config),
      (Passes name →
        TablePublisher.ofConfig name shared config = (do
          let address ← Action.ofExcept (addressOf config "destination" .noDestination)
          TablePublisher.create name address shared config) ∧
        TableSubscriber.ofConfig name shared config = do
          let address ← Action.ofExcept (addressOf config "source" .noSource)
          TableSubscriber.create name address shared config) ∧
      (¬ Passes name →
        TablePublisher.ofConfig name shared config = Action.fail (.setup (.name name)) ∧
        TableSubscriber.ofConfig name shared config = Action.fail (.setup (.name name))) := by
  have decided : checkName name = .ok () ↔ Passes name := by
    refine ⟨fun checked => Classical.byContradiction fun fails => ?_, checkName_of_passes⟩
    cases (checkName_of_not_passes fails).symm.trans checked
  refine ⟨decided, ?_, ?_, ?_⟩
  · intro fails
    exact ⟨checkName_of_not_passes fails, rfl⟩
  · rintro s rfl
    rw [decided, passes_text_iff, isName_iff]
    constructor
    · intro same broken
      exact broken.not_plain (same.mp (.inr broken))
    · intro unbroken
      simp [unbroken]
  · intro shared config
    constructor
    · intro passes
      unfold TablePublisher.ofConfig TableSubscriber.ofConfig
      rw [checkName_of_passes passes]
      exact ⟨rfl, rfl⟩
    · intro fails
      unfold TablePublisher.ofConfig TableSubscriber.ofConfig
      rw [checkName_of_not_passes fails]
      exact ⟨rfl, rfl⟩

/-- A plain name with a line feed behind it passes; digits with one behind, and a number, do not. -/
theorem names_checked_line_feed :
    Passes (.text "trades\n") ∧ ¬ PlainName "trades\n".toList ∧
    checkName (.text "trades\n") = .ok () ∧
    ¬ Passes (.text "9_\n") ∧ checkName (.text "9_\n") = .error (.name (.text "9_\n")) ∧
    ¬ Passes (.whole 5) ∧ checkName (.whole 5) = .error (.name (.whole 5)) ∧
    TablePublisher.ofConfig (.whole 5) none ∅ =
      Action.fail (.setup (.name (.whole 5))) := by
  have passes : Passes (.text "trades\n") := (passes_text_iff _).mpr (by decide)
  have digits : ¬ Passes (.text "9_\n") := mt (passes_text_iff _).mp (by decide)
  have number : ¬ Passes (.whole 5) := by
    rintro ⟨s, same, -⟩
    cases same
  exact ⟨passes, by decide, (names_checked _).1.mpr passes, digits,
    ((names_checked _).2.1 digits).1, number, ((names_checked _).2.1 number).1,
    (((names_checked _).2.2.2 none ∅).2 number).1⟩

end WideColumn.Stream
