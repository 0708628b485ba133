import Mathlib.Algebra.Group.Nat.Defs
import Mathlib.Data.List.TakeWhile
import WideColumn.Text.Integer

/-! Written integers. A run of digits is read exactly when each digit has a decimal value and there
are not too many of them, and the decimal digits of a number are read as that number. -/
namespace WideColumn.Text

theorem blockStart?_eq_some {ranges : List (Nat × Nat)} {n lo : Nat}
    (h : blockStart? ranges n = some lo) : ∃ hi, (lo, hi) ∈ ranges ∧ lo ≤ n ∧ n ≤ hi := by
  induction ranges with
  | nil => cases h
  | cons range rest ih =>
    obtain ⟨start, stop⟩ := range
    simp only [blockStart?] at h
    split at h
    · cases h
    · split at h
      · cases h
        exact ⟨stop, by simp, by omega, by omega⟩
      · obtain ⟨hi, member, bounds⟩ := ih h
        exact ⟨hi, by simp [member], bounds⟩

/-- No range of one set overlaps a range of the other. -/
abbrev Apart (first second : List (Nat × Nat)) : Prop :=
  ∀ r ∈ first, ∀ s ∈ second, r.2 < s.1 ∨ s.2 < r.1

theorem not_covers_of_apart {first second : List (Nat × Nat)} (apart : Apart first second) {n : Nat}
    (covered : covers first n = true) : covers second n = false := by
  obtain ⟨lo, found⟩ := Option.isSome_iff_exists.mp covered
  obtain ⟨hi, member, low, high⟩ := blockStart?_eq_some found
  refine Bool.eq_false_iff.mpr fun covered' => ?_
  obtain ⟨lo', found'⟩ := Option.isSome_iff_exists.mp covered'
  obtain ⟨hi', member', low', high'⟩ := blockStart?_eq_some found'
  have := apart _ member _ member'
  omega

theorem not_isBlank_of_isDigit {c : Char} (digit : isDigit c = true) : isBlank c = false := by
  rcases (Bool.or_eq_true _ _).mp digit with decimal | other
  · have apart : Apart decimalRanges blankRanges := by decide +kernel
    refine not_covers_of_apart apart ?_
    simpa [decimalValue?, covers] using decimal
  · have apart : Apart undecimalRanges blankRanges := by decide +kernel
    exact not_covers_of_apart apart other

theorem isDigit_of_decimalValue? {c : Char} {d : Nat} (h : decimalValue? c = some d) :
    isDigit c = true := by
  simp [isDigit, h]

theorem decimalValue?_lt {c : Char} {d : Nat} (h : decimalValue? c = some d) : d < 10 := by
  obtain ⟨start, -, rfl⟩ := Option.map_eq_some_iff.mp h
  exact Nat.mod_lt _ (by decide)

/-- The number that the decimal digits of a text spell. -/
def magnitude (cs : List Char) : Nat :=
  (cs.filterMap decimalValue?).foldl (fun n d => 10 * n + d) 0

/-- The digits of one integer: each has a decimal value, and they are not too many. -/
def Readable (cs : List Char) : Prop :=
  (∀ c ∈ cs, (decimalValue? c).isSome = true) ∧ cs.length ≤ integerDigitLimit

theorem isGrouped_digits {cs : List Char} (digits : '_' ∉ cs) {afterDigit : Bool}
    (behind : cs ≠ [] ∨ afterDigit = true) : isGrouped afterDigit cs = true := by
  induction cs generalizing afterDigit with
  | nil => exact behind.resolve_left (fun ne => ne rfl)
  | cons c rest ih =>
    simp only [List.mem_cons, not_or] at digits
    simpa [isGrouped, Ne.symm digits.1] using ih digits.2 (.inr rfl)

/-- The integer that a run of digits spells behind its sign. -/
def readRun (negative : Bool) (cs : List Char) : Option (Except Nat Int) :=
  let isMember := fun c => (decimalValue? c).isSome || c = '_'
  let run := cs.takeWhile isMember
  let digits := run.filterMap decimalValue?
  if !isGrouped false run then none
  else if digits.length > integerDigitLimit then some (.error digits.length)
  else if !(cs.dropWhile isMember).all isIntegerBlank then none
  else some (.ok (if negative then -(magnitude run : Int) else magnitude run))

/-- Nothing is trimmed from a run of digits, and it has no sign of its own. -/
theorem read_run {cs : List Char} (digits : ∀ c ∈ cs, isDigit c = true) :
    unicodeScript.read cs = readRun false cs ∧
      unicodeScript.read ('-' :: cs) = readRun true cs := by
  have notBlank : ∀ {c}, isBlank c = false → isIntegerBlank c = false := by
    intro c h
    simp [isIntegerBlank, h]
  have minus : isIntegerBlank '-' = false := by decide +kernel
  constructor
  · cases cs with
    | nil => rfl
    | cons c rest =>
      have digit : isDigit c = true := digits c (by simp)
      have blank := notBlank (not_isBlank_of_isDigit digit)
      have noMinus : c ≠ '-' := by
        rintro rfl
        exact absurd digit (by decide +kernel)
      have noPlus : c ≠ '+' := by
        rintro rfl
        exact absurd digit (by decide +kernel)
      simp [IntegerScript.read, unicodeScript, blank, noMinus, noPlus, readRun, magnitude]
  · simp [IntegerScript.read, unicodeScript, minus, readRun, magnitude]

theorem readRun_eq_ok_iff {negative : Bool} {cs : List Char} {n : Int}
    (digits : ∀ c ∈ cs, isDigit c = true) (nonempty : cs ≠ []) :
    readRun negative cs = some (.ok n) ↔
      Readable cs ∧ n = if negative then -(magnitude cs : Int) else magnitude cs := by
  have noUnderscore : '_' ∉ cs := fun member => absurd (digits _ member) (by decide +kernel)
  let isMember := fun c => (decimalValue? c).isSome || c = '_'
  by_cases decimal : ∀ c ∈ cs, (decimalValue? c).isSome = true
  · have members : ∀ c ∈ cs, isMember c = true := by
      intro c member
      simp [isMember, decimal c member]
    have whole : cs.takeWhile isMember = cs := by
      simpa using @List.takeWhile_append_of_pos _ isMember cs [] members
    have nothing : cs.dropWhile isMember = [] := by
      simpa using @List.dropWhile_append_of_pos _ isMember cs [] members
    have count : (cs.filterMap decimalValue?).length = cs.length := by simpa using decimal
    unfold readRun
    dsimp only
    rw [whole, nothing, isGrouped_digits noUnderscore (.inl nonempty), count]
    by_cases long : integerDigitLimit < cs.length
    · have unreadable : ¬ Readable cs := fun h => Nat.not_le.mpr long h.2
      simp [long, unreadable]
    · have readable : Readable cs := ⟨decimal, Nat.not_lt.mp long⟩
      simp only [Bool.not_true, Bool.false_eq_true, gt_iff_lt, long, List.all_nil, if_false,
        Option.some.injEq, Except.ok.injEq, readable, true_and]
      exact eq_comm
  · have blocked : (cs.dropWhile isMember).all isIntegerBlank = false := by
      refine Bool.eq_false_iff.mpr fun blank => decimal fun c member => ?_
      have none : cs.dropWhile isMember = [] := by
        refine List.eq_nil_iff_forall_not_mem.mpr fun d left => ?_
        have digit := digits d ((List.dropWhile_sublist _).subset left)
        have space := List.all_eq_true.mp blank d left
        simp [isIntegerBlank, not_isBlank_of_isDigit digit] at space
      have used := List.takeWhile_append_dropWhile (p := isMember) (l := cs)
      rw [none, List.append_nil] at used
      have isOne : isMember c = true := List.mem_takeWhile_imp (used ▸ member)
      rcases (Bool.or_eq_true _ _).mp isOne with digit | underscore
      · exact digit
      · exact absurd (of_decide_eq_true underscore ▸ member) noUnderscore
    constructor
    · intro h
      unfold readRun at h
      dsimp only at h
      rw [blocked] at h
      simp only [Bool.not_false, if_true] at h
      split at h
      · cases h
      · split at h <;> cases h
    · intro h
      exact absurd h.1.1 decimal

/-- A run of digits is read exactly when it can be, as its value. -/
theorem readInteger_run {cs : List Char} {n : Int} (digits : ∀ c ∈ cs, isDigit c = true)
    (nonempty : cs ≠ []) :
    (readInteger cs = .ok n ↔ Readable cs ∧ n = magnitude cs) ∧
      (readInteger ('-' :: cs) = .ok n ↔ Readable cs ∧ n = -(magnitude cs : Int)) := by
  have ok : ∀ text, readInteger text = .ok n ↔ unicodeScript.read text = some (.ok n) := by
    intro text
    unfold readInteger
    split <;> simp_all
  simp [ok, read_run digits, readRun_eq_ok_iff digits nonempty]

theorem decimalValue?_digitChar {d : Nat} (small : d < 10) :
    decimalValue? d.digitChar = some d := by
  have all : ∀ d < 10, decimalValue? d.digitChar = some d := by decide +kernel
  exact all d small

theorem decimal_natural (n : Nat) : ∀ c ∈ natural n, (decimalValue? c).isSome = true := by
  induction n using Nat.strongRecOn with
  | ind n ih =>
    rw [natural, Nat.toDigits_eq_if (by decide)]
    split
    · next small => simp [decimalValue?_digitChar small]
    · next large =>
      have last := decimalValue?_digitChar (Nat.mod_lt n (show 0 < 10 by decide))
      intro c member
      rcases List.mem_append.mp member with front | back
      · exact ih (n / 10) (by omega) c front
      · simp [List.mem_singleton.mp back, last]

theorem magnitude_natural (n : Nat) : magnitude (natural n) = n := by
  induction n using Nat.strongRecOn with
  | ind n ih =>
    rw [natural, Nat.toDigits_eq_if (by decide)]
    split
    · next small => simp [magnitude, decimalValue?_digitChar small]
    · next large =>
      have last := decimalValue?_digitChar (Nat.mod_lt n (show 0 < 10 by decide))
      have front := ih (n / 10) (by omega)
      rw [magnitude, natural] at front
      rw [magnitude, List.filterMap_append, List.foldl_append, front]
      simp only [List.filterMap_cons, last, List.filterMap_nil, List.foldl_cons, List.foldl_nil]
      omega

theorem foldl_lt {ds : List Nat} (digits : ∀ d ∈ ds, d < 10) (n : Nat) :
    ds.foldl (fun n d => 10 * n + d) n < (n + 1) * 10 ^ ds.length := by
  induction ds generalizing n with
  | nil => simp
  | cons d ds ih =>
    simp only [List.mem_cons, forall_eq_or_imp] at digits
    calc
      _ < (10 * n + d + 1) * 10 ^ ds.length := ih digits.2 (10 * n + d)
      _ ≤ ((n + 1) * 10) * 10 ^ ds.length := Nat.mul_le_mul_right _ (by omega)
      _ = _ := by rw [List.length_cons, Nat.pow_succ', Nat.mul_assoc]

theorem magnitude_lt {cs : List Char} (readable : Readable cs) :
    magnitude cs < 10 ^ integerDigitLimit := by
  have digits : ∀ d ∈ cs.filterMap decimalValue?, d < 10 := by
    intro d member
    obtain ⟨c, -, value⟩ := List.mem_filterMap.mp member
    exact decimalValue?_lt value
  have count : (cs.filterMap decimalValue?).length ≤ integerDigitLimit :=
    Nat.le_trans (List.length_filterMap_le _ _) readable.2
  have bound := foldl_lt digits 0
  rw [Nat.zero_add, Nat.one_mul] at bound
  exact Nat.lt_of_lt_of_le bound (Nat.pow_le_pow_right (by decide) count)

/-- What is readable has few enough digits to be readable in the digits that it is written in. -/
theorem readable_natural {n : Nat} (bound : n < 10 ^ integerDigitLimit) : Readable (natural n) :=
  ⟨decimal_natural n, (Nat.length_toDigits_le_iff (by decide) (by decide)).mpr bound⟩

theorem isDigit_natural (n : Nat) : ∀ c ∈ natural n, isDigit c = true := by
  intro c member
  obtain ⟨d, value⟩ := Option.isSome_iff_exists.mp (decimal_natural n c member)
  exact isDigit_of_decimalValue? value

/-- An integer that is written in few enough digits is read again. -/
theorem readInteger_integer {n : Int} (bound : n.natAbs < 10 ^ integerDigitLimit) :
    readInteger (integer n) = .ok n := by
  have run := readInteger_run (n := n) (isDigit_natural n.natAbs) Nat.toDigits_ne_nil
  rw [magnitude_natural] at run
  unfold integer
  split
  · exact run.2.mpr ⟨readable_natural bound, by omega⟩
  · exact run.1.mpr ⟨readable_natural bound, by omega⟩

end WideColumn.Text
