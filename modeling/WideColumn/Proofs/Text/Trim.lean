import Mathlib.Data.List.TakeWhile
import WideColumn.Text.Blank

/-! Trimmed texts, and the parts of a divided text. -/
namespace WideColumn.Text

/-- No blank stands at either end of a text. -/
structure Trimmed (cs : List Char) : Prop where
  first : ∀ c, cs.head? = some c → isBlank c = false
  last : ∀ c, cs.getLast? = some c → isBlank c = false

theorem head?_dropWhile {p : Char → Bool} {cs : List Char} {c : Char}
    (first : (cs.dropWhile p).head? = some c) : p c = false := by
  simpa [first] using List.head?_dropWhile_not p cs

theorem takeWhile_stop {α : Type} {p : α → Bool} {front : List α} {stop : α}
    (inside : ∀ a ∈ front, p a = true) (stops : p stop = false) (rest : List α) :
    (front ++ stop :: rest).takeWhile p = front := by
  rw [List.takeWhile_append_of_pos inside]
  simp [stops]

/-- A list is of one kind, or it has a front of that kind and then an element that is not. -/
theorem exists_stop {α : Type} (p : α → Bool) (as : List α) : as.takeWhile p = as ∨
    ∃ front stop rest, as = front ++ stop :: rest ∧ (∀ a ∈ front, p a = true) ∧ p stop = false := by
  induction as with
  | nil => exact .inl rfl
  | cons a as ih =>
    cases here : p a with
    | false => exact .inr ⟨[], a, as, rfl, nofun, here⟩
    | true =>
      rcases ih with whole | ⟨front, stop, rest, rfl, inside, stops⟩
      · left
        simp [here, whole]
      · exact .inr ⟨a :: front, stop, rest, rfl, List.forall_mem_cons.mpr ⟨here, inside⟩, stops⟩

theorem isBlankText_cons {c : Char} {cs : List Char} :
    isBlankText (c :: cs) = true ↔ isBlank c = true ∧ isBlankText cs = true := by
  simp [isBlankText]

/-- What trimming takes away at the end is blank. -/
theorem exists_trimRight (cs : List Char) :
    ∃ w, isBlankText w = true ∧ cs = trimRight cs ++ w := by
  refine ⟨(cs.reverse.takeWhile isBlank).reverse, List.all_eq_true.mpr fun c member => ?_, ?_⟩
  · exact List.mem_takeWhile_imp (List.mem_reverse.mp member)
  · rw [trimRight, dropEndWhile, ← List.reverse_append, List.takeWhile_append_dropWhile,
      List.reverse_reverse]

theorem exists_trimLeft (cs : List Char) : ∃ w, isBlankText w = true ∧ cs = w ++ trimLeft cs :=
  ⟨cs.takeWhile isBlank, List.all_eq_true.mpr fun _ member => List.mem_takeWhile_imp member,
    List.takeWhile_append_dropWhile.symm⟩

/-- What trimming takes away is blank. -/
theorem trim_surrounded (cs : List Char) : ∃ before after, cs = before ++ trim cs ++ after ∧
    (∀ c ∈ before, isBlank c = true) ∧ ∀ c ∈ after, isBlank c = true := by
  obtain ⟨before, isBefore, left⟩ := exists_trimLeft cs
  obtain ⟨after, isAfter, right⟩ := exists_trimRight (trimLeft cs)
  refine ⟨before, after, ?_, List.all_eq_true.mp isBefore, List.all_eq_true.mp isAfter⟩
  rw [trim, List.append_assoc, ← right]
  exact left

theorem trim_trimmed (cs : List Char) : Trimmed (trim cs) where
  first c first := by
    have front : trim cs <+: trimLeft cs := by
      rw [trim, trimRight, dropEndWhile, ← List.reverse_suffix, List.reverse_reverse]
      exact List.dropWhile_suffix isBlank
    obtain ⟨rest, same⟩ := List.head?_eq_some_iff.mp first
    obtain ⟨after, cut⟩ := front
    have head : (cs.dropWhile isBlank).head? = some c := by
      rw [← trimLeft, ← cut, same]
      rfl
    exact head?_dropWhile head
  last c last := by
    rw [trim, trimRight, dropEndWhile, List.getLast?_reverse] at last
    exact head?_dropWhile last

theorem trim_eq_nil_iff {cs : List Char} : trim cs = [] ↔ isBlankText cs = true := by
  obtain ⟨before, after, cut, isBefore, isAfter⟩ := trim_surrounded cs
  rw [isBlankText, List.all_eq_true]
  constructor
  · intro empty c member
    rw [empty, List.append_nil] at cut
    rw [cut] at member
    exact (List.mem_append.mp member).elim (isBefore c) (isAfter c)
  · intro blank
    cases same : trim cs with
    | nil => rfl
    | cons c rest =>
      have visible := (trim_trimmed cs).first c (by rw [same]; rfl)
      rw [blank c (by rw [cut, same]; simp)] at visible
      cases visible

theorem trim_subset (cs : List Char) : trim cs ⊆ cs := by
  obtain ⟨before, after, cut, -, -⟩ := trim_surrounded cs
  intro c member
  rw [cut]
  simp [member]

/-- A text without blanks at its ends is what trimming leaves of it between blanks. -/
theorem trim_eq {before body after : List Char} (trimmed : Trimmed body)
    (isBefore : isBlankText before = true) (isAfter : isBlankText after = true) :
    trim (before ++ body ++ after) = body := by
  simp only [isBlankText, List.all_eq_true] at isBefore isAfter
  have front : trimLeft (before ++ (body ++ after)) = trimLeft (body ++ after) :=
    List.dropWhile_append_of_pos isBefore
  have back : trimRight (body ++ after) = trimRight body := by
    rw [trimRight, dropEndWhile, List.reverse_append, List.dropWhile_append_of_pos]
    · rfl
    · simpa using isAfter
  rw [List.append_assoc, trim, front]
  cases body with
  | nil => simp [trimLeft, trimRight, dropEndWhile, List.dropWhile_eq_nil_iff.mpr isAfter]
  | cons c body =>
    have whole : trimLeft (c :: body ++ after) = c :: body ++ after := by
      simp [trimLeft, trimmed.first c rfl]
    rw [whole, back, trimRight, dropEndWhile]
    cases turned : (c :: body).reverse with
    | nil => simp at turned
    | cons d rest =>
      have last : (c :: body).getLast? = some d := by
        rw [← List.head?_reverse, turned]
        rfl
      rw [List.dropWhile_cons_of_neg (by simp [trimmed.last d last]), ← turned,
        List.reverse_reverse]

theorem Trimmed.trim_eq_self {cs : List Char} (trimmed : Trimmed cs) : trim cs = cs := by
  have whole : trim ([] ++ cs ++ []) = cs := Text.trim_eq trimmed rfl rfl
  simpa using whole

instance {cs : List Char} : Decidable (Trimmed cs) :=
  decidable_of_iff (trim cs = cs) ⟨fun same => same ▸ trim_trimmed cs, Trimmed.trim_eq_self⟩

/-- Blanks behind a text do not matter once it is trimmed. -/
theorem trim_append_blanks {w : List Char} (blank : isBlankText w = true) (cs : List Char) :
    trim (cs ++ w) = trim cs := by
  obtain ⟨before, after, cut, isBefore, isAfter⟩ := trim_surrounded cs
  have split : cs ++ w = before ++ trim cs ++ (after ++ w) := by
    rw [← List.append_assoc, ← cut]
  rw [split]
  apply trim_eq (trim_trimmed cs)
  · exact List.all_eq_true.mpr isBefore
  · simpa [isBlankText] using ⟨isAfter, List.all_eq_true.mp blank⟩

theorem trimLeft_eq_nil_iff {cs : List Char} : trimLeft cs = [] ↔ isBlankText cs = true := by
  rw [trimLeft, List.dropWhile_eq_nil_iff, isBlankText, List.all_eq_true]

theorem trimLeft_blanks_append {w : List Char} (blank : isBlankText w = true) (cs : List Char) :
    trimLeft (w ++ cs) = trimLeft cs :=
  List.dropWhile_append_of_pos (List.all_eq_true.mp blank)

theorem trimLeft_append {a : List Char} (visible : isBlankText a = false) (b : List Char) :
    trimLeft (a ++ b) = trimLeft a ++ b := by
  have left : (trimLeft a).isEmpty = false := by
    rw [← Bool.not_eq_true, List.isEmpty_iff, trimLeft_eq_nil_iff, visible]
    exact Bool.false_ne_true
  rw [trimLeft, List.dropWhile_append, if_neg]
  · rfl
  · exact ne_true_of_eq_false left

theorem trimLeft_trimLeft_append (a b : List Char) :
    trimLeft (trimLeft a ++ b) = trimLeft (a ++ b) := by
  obtain ⟨w, blank, cut⟩ := exists_trimLeft a
  calc trimLeft (trimLeft a ++ b) = trimLeft (w ++ (trimLeft a ++ b)) :=
        (trimLeft_blanks_append blank _).symm
    _ = trimLeft (a ++ b) := by rw [← List.append_assoc, ← cut]

theorem trimLeft_trimLeft (cs : List Char) : trimLeft (trimLeft cs) = trimLeft cs := by
  simpa using trimLeft_trimLeft_append cs []

/-- The last character of a text that is not blank. -/
def lastVisible? (cs : List Char) : Option Char := (trimRight cs).getLast?

theorem lastVisible?_eq (cs : List Char) :
    lastVisible? cs = cs.reverse.find? fun c => !isBlank c := by
  simp [lastVisible?, trimRight, dropEndWhile, List.find?_eq_head?_dropWhile_not]

theorem lastVisible?_append (a b : List Char) :
    lastVisible? (a ++ b) = (lastVisible? b).or (lastVisible? a) := by
  simp only [lastVisible?_eq, List.reverse_append, List.find?_append]

theorem lastVisible?_eq_none_iff {cs : List Char} :
    lastVisible? cs = none ↔ isBlankText cs = true := by
  simp [lastVisible?_eq, isBlankText]

theorem lastVisible?_append_blanks {w : List Char} (blank : isBlankText w = true)
    (cs : List Char) : lastVisible? (cs ++ w) = lastVisible? cs := by
  rw [lastVisible?_append, lastVisible?_eq_none_iff.mpr blank, Option.none_or]

theorem lastVisible?_trimLeft (cs : List Char) : lastVisible? (trimLeft cs) = lastVisible? cs := by
  obtain ⟨w, blank, cut⟩ := exists_trimLeft cs
  calc lastVisible? (trimLeft cs) = (lastVisible? (trimLeft cs)).or (lastVisible? w) := by
        rw [lastVisible?_eq_none_iff.mpr blank, Option.or_none]
    _ = lastVisible? cs := by rw [← lastVisible?_append, ← cut]

theorem lastVisible?_trim (cs : List Char) : lastVisible? (trim cs) = lastVisible? cs := by
  obtain ⟨w, blank, cut⟩ := exists_trimRight (trimLeft cs)
  rw [trim, ← lastVisible?_append_blanks blank, ← cut, lastVisible?_trimLeft]

/-- What is put in front of a text that is not blank does not change its end. -/
theorem lastVisible?_append_trimLeft {cs : List Char} (visible : isBlankText cs = false)
    (front : List Char) : lastVisible? (front ++ trimLeft cs) = lastVisible? cs := by
  rw [lastVisible?_append, lastVisible?_trimLeft]
  cases last : lastVisible? cs with
  | some c => rfl
  | none =>
    rw [lastVisible?_eq_none_iff.mp last] at visible
    cases visible

theorem getLast?_append_trimLeft {cs : List Char} (visible : isBlankText cs = false)
    (front : List Char) : (front ++ trimLeft cs).getLast? = cs.getLast? := by
  obtain ⟨w, -, cut⟩ := exists_trimLeft cs
  cases last : (trimLeft cs).getLast? with
  | none =>
    rw [trimLeft_eq_nil_iff.mp (List.getLast?_eq_none_iff.mp last)] at visible
    cases visible
  | some c =>
    have whole : cs.getLast? = some c := by rw [cut, List.getLast?_append, last, Option.some_or]
    rw [List.getLast?_append, last, whole, Option.some_or]

theorem lastVisible?_of_last {cs : List Char} {c : Char} (last : cs.getLast? = some c)
    (visible : isBlank c = false) : lastVisible? cs = some c := by
  obtain ⟨front, rfl⟩ := List.getLast?_eq_some_iff.mp last
  simp [lastVisible?_eq, visible]

theorem splitOn_ne_nil (separator : Char) (cs : List Char) : splitOn separator cs ≠ [] := by
  cases cs with
  | nil => simp [splitOn]
  | cons c rest =>
    simp only [splitOn]
    split
    · simp
    · split <;> simp

theorem not_mem_of_mem_splitOn {separator : Char} {cs part : List Char}
    (member : part ∈ splitOn separator cs) : separator ∉ part := by
  induction cs generalizing part with
  | nil =>
    rw [List.mem_singleton.mp member]
    exact List.not_mem_nil
  | cons c rest ih =>
    simp only [splitOn] at member
    split at member
    · next none => exact absurd none (splitOn_ne_nil separator rest)
    · next first more parts =>
      rw [parts] at ih
      split at member
      · rcases List.mem_cons.mp member with rfl | member
        · exact List.not_mem_nil
        · exact ih member
      · next other =>
        rcases List.mem_cons.mp member with rfl | member
        · simpa [Ne.symm other] using ih (.head _)
        · exact ih (.tail _ member)

end WideColumn.Text
