import WideColumn.Properties.Reader
import WideColumn.Proofs.Text.Trim

/-! Lines of a property file: how many backslashes one ends in, where its first separator is, and
what a reader does with it. A reader that has the beginning of an entry adds the line to it; to any
other one a line is nothing, a beginning, or a whole entry. -/
namespace WideColumn.Properties

open Text (isBlank isBlankText trim trimLeft lastVisible?)

/-! The end of a line. -/

/-- Exactly `n` backslashes stand at the end of a line. -/
def EndsIn (n : Nat) (line : List Char) : Prop :=
  ∃ front, line = front ++ List.replicate n '\\' ∧ front.getLast? ≠ some '\\'

variable {line : List Char}

theorem endsIn_iff {n : Nat} : EndsIn n line ↔ trailingBackslashes line = n := by
  constructor
  · rintro ⟨front, rfl, other⟩
    have stop : front.reverse.takeWhile (· = '\\') = [] := by
      cases turned : front.reverse with
      | nil => rfl
      | cons c rest =>
        rw [← List.head?_reverse, turned] at other
        simp_all
    rw [trailingBackslashes, List.reverse_append, List.reverse_replicate,
      List.takeWhile_append_of_pos (by simp), stop]
    simp
  · intro count
    have cut : line.reverse.takeWhile (· = '\\') ++ line.reverse.dropWhile (· = '\\') =
      line.reverse := List.takeWhile_append_dropWhile
    have run : line.reverse.takeWhile (· = '\\') = List.replicate n '\\' := by
      rw [List.eq_replicate_iff]
      exact ⟨count, fun c member => by simpa using List.mem_takeWhile_imp member⟩
    refine ⟨(line.reverse.dropWhile (· = '\\')).reverse, ?_, ?_⟩
    · rw [run] at cut
      simpa using congrArg List.reverse cut.symm
    · rw [List.getLast?_reverse]
      intro first
      simpa using Text.head?_dropWhile first

theorem isContinued_iff : isContinued line = true ↔ ∃ n, EndsIn n line ∧ n % 2 = 1 := by
  simp [isContinued, endsIn_iff]

theorem isContinued_eq_false_iff :
    isContinued line = false ↔ ∀ n, EndsIn n line → n % 2 = 0 := by
  simp [isContinued, endsIn_iff]

theorem isContinued_of_other (other : line.getLast? ≠ some '\\') : isContinued line = false := by
  have none : EndsIn 0 line := ⟨line, by simp, other⟩
  simp [isContinued, endsIn_iff.mp none]

theorem isContinued_backslash (other : line.getLast? ≠ some '\\') :
    isContinued (line ++ ['\\']) = true :=
  isContinued_iff.mpr ⟨1, ⟨line, rfl, other⟩, rfl⟩

/-- What stands in front of another character is not at the end. -/
theorem isContinued_append {c : Char} (other : c ≠ '\\') (a b : List Char) :
    isContinued (a ++ c :: b) = isContinued b := by
  have apart : ∀ n, EndsIn n b → EndsIn n (a ++ c :: b) := by
    rintro n ⟨front, rfl, last⟩
    refine ⟨a ++ c :: front, by simp, ?_⟩
    cases front with
    | nil => simpa using other
    | cons d front => simpa [List.getLast?_append, List.getLast?_cons] using last
  have same := endsIn_iff.mp (apart _ (endsIn_iff.mpr rfl))
  rw [isContinued, isContinued, same]

theorem isBlank_backslash : isBlank '\\' = false := by decide

theorem ne_backslash_of_isBlank {c : Char} (blank : isBlank c = true) : c ≠ '\\' := by
  rintro rfl
  rw [isBlank_backslash] at blank
  cases blank

theorem isContinued_blanks_append {w : List Char} (blank : isBlankText w = true)
    (line : List Char) : isContinued (w ++ line) = isContinued line := by
  rcases List.eq_nil_or_concat w with rfl | ⟨a, c, rfl⟩
  · rfl
  · have last : isBlank c = true := List.all_eq_true.mp blank c (by simp)
    simpa using isContinued_append (ne_backslash_of_isBlank last) a line

theorem isContinued_trimLeft (line : List Char) :
    isContinued (trimLeft line) = isContinued line := by
  obtain ⟨w, blank, cut⟩ := Text.exists_trimLeft line
  calc isContinued (trimLeft line) = isContinued (w ++ trimLeft line) :=
        (isContinued_blanks_append blank _).symm
    _ = isContinued line := by rw [← cut]

theorem isContinued_append_blanks {w : List Char} (blank : isBlankText w = true) (some : w ≠ [])
    (line : List Char) : isContinued (line ++ w) = false := by
  apply isContinued_of_other
  obtain ⟨a, c, rfl⟩ := (List.eq_nil_or_concat w).resolve_left some
  have last : isBlank c = true := List.all_eq_true.mp blank c (by simp)
  simpa [List.getLast?_append] using ne_backslash_of_isBlank last

/-- A line whose last visible character is no backslash is not continued. -/
theorem last_ne_of_visible (visible : lastVisible? line ≠ some '\\') :
    line.getLast? ≠ some '\\' := by
  intro last
  exact visible (Text.lastVisible?_of_last last isBlank_backslash)

/-! The separator of a line. -/

/-- Whether a backslash stands before what follows a line. -/
def escapedAfter (escaped : Bool) (line : List Char) : Bool :=
  line.getLast?.elim escaped (· = '\\')

theorem escapedAfter_cons (escaped : Bool) (c : Char) (line : List Char) :
    escapedAfter escaped (c :: line) = escapedAfter (c = '\\') line := by
  rw [escapedAfter, escapedAfter, List.getLast?_cons]
  cases line.getLast? <;> rfl

theorem escapedAfter_of_other (other : line.getLast? ≠ some '\\') :
    escapedAfter false line = false := by
  unfold escapedAfter
  cases last : line.getLast? with
  | none => rfl
  | some c => simpa [last] using other

variable {escaped : Bool} {c : Char}

theorem splitSeparator_append_of_some {key value : List Char}
    (found : splitSeparator escaped line = some (key, c, value)) (rest : List Char) :
    splitSeparator escaped (line ++ rest) = some (key, c, value ++ rest) := by
  induction line generalizing escaped key with
  | nil => cases found
  | cons d line ih =>
    by_cases here : (!escaped && isSeparator d) = true
    · simp only [splitSeparator, here, if_true, List.cons_append] at found ⊢
      cases found
      rfl
    · simp only [splitSeparator, here, if_false, List.cons_append, Bool.false_eq_true] at found ⊢
      obtain ⟨⟨key, c, value⟩, later, same⟩ := Option.map_eq_some_iff.mp found
      cases same
      rw [ih later]
      rfl

theorem splitSeparator_append_of_none (unfound : splitSeparator escaped line = none)
    (rest : List Char) : splitSeparator escaped (line ++ rest) =
      (splitSeparator (escapedAfter escaped line) rest).map fun (key, c, value) =>
        (line ++ key, c, value) := by
  induction line generalizing escaped with
  | nil => simp [escapedAfter]
  | cons d line ih =>
    by_cases here : (!escaped && isSeparator d) = true
    · simp [splitSeparator, here] at unfound
    · simp only [splitSeparator, here, if_false, List.cons_append, Option.map_eq_none_iff,
        Bool.false_eq_true] at unfound ⊢
      rw [ih unfound, escapedAfter_cons, Option.map_map]
      rfl

theorem isSeparator_of_isBlank (blank : isBlank c = true) : isSeparator c = true := by
  simp [isSeparator, blank]

/-- A blank at the end of a line without a separator has a backslash in front of it. -/
theorem last_visible_of_none (unfound : splitSeparator false line = none)
    (last : line.getLast? = some c) (blank : isBlank c = true) :
    lastVisible? line = some '\\' := by
  obtain ⟨front, rfl⟩ := List.getLast?_eq_some_iff.mp last
  have before : splitSeparator false front = none := by
    cases found : splitSeparator false front with
    | none => rfl
    | some parts =>
      rw [splitSeparator_append_of_some found] at unfound
      cases unfound
  rw [splitSeparator_append_of_none before] at unfound
  have hidden : front.getLast? = some '\\' := by
    by_contra other
    rw [escapedAfter_of_other other] at unfound
    simp [splitSeparator, isSeparator_of_isBlank blank] at unfound
  rw [Text.lastVisible?_append_blanks (by simp [isBlankText, blank])]
  exact Text.lastVisible?_of_last hidden isBlank_backslash

/-! The entry of a line. -/

theorem readValue_append_blanks {w : List Char} (blank : isBlankText w = true) (c : Char)
    (text : List Char) : readValue c (text ++ w) = readValue c text := by
  rw [readValue, readValue, Text.trim_append_blanks blank]

theorem readValue_blanks {w : List Char} (blank : isBlankText w = true) (c : Char) :
    readValue c w = [] := readValue_append_blanks blank c []

/-- Blanks behind a line do not change its entry, if it has a separator or its last visible
character is no backslash. -/
theorem readEntry_append_blanks {w : List Char} (blank : isBlankText w = true)
    (starts : ∀ c, line.head? = some c → isBlank c = false)
    (harmless : (splitSeparator false line).isSome = true ∨ lastVisible? line ≠ some '\\') :
    readEntry (line ++ w) = readEntry line := by
  cases found : splitSeparator false line with
  | some parts =>
    obtain ⟨key, c, value⟩ := parts
    rw [readEntry, readEntry, splitSeparator_append_of_some found, found]
    simp only [readValue_append_blanks blank]
  | none =>
    have visible : lastVisible? line ≠ some '\\' := by simpa [found] using harmless
    have trimmed : Text.Trimmed line := by
      refine ⟨starts, fun c last => ?_⟩
      rw [← Bool.not_eq_true]
      exact fun blank => visible (last_visible_of_none found last blank)
    cases w with
    | nil => rw [List.append_nil]
    | cons c w =>
      obtain ⟨first, others⟩ := Text.isBlankText_cons.mp blank
      have separated : splitSeparator false (line ++ c :: w) = some (line, c, w) := by
        rw [splitSeparator_append_of_none found,
          escapedAfter_of_other (last_ne_of_visible visible)]
        simp [splitSeparator, isSeparator_of_isBlank first]
      rw [readEntry, readEntry, separated, found]
      simp only [trimmed.trim_eq_self, readValue_blanks others]

/-! What a reader does with a line. -/

namespace Reader

variable {r : Reader}

/-- Takes a line, without the blanks around it, to what has been read. -/
def take (r : Reader) (line : List Char) : Reader :=
  if isContinued line then { r with pending := r.pending ++ line.dropLast }
  else ⟨r.entries.insert (readEntry (r.pending ++ line)).1 (readEntry (r.pending ++ line)).2, []⟩

theorem readLine_fresh (fresh : r.pending = []) (raw : List Char) :
    r.readLine raw = if isSkipped (trim raw) then r else r.take (trim raw) := by
  simp [readLine, fresh, take]

theorem readLine_pending (pending : r.pending ≠ []) (raw : List Char) :
    r.readLine raw = r.take (trimLeft raw) := by
  simp [readLine, pending, take]

theorem take_of_continued (continued : isContinued line = true) :
    r.take line = { r with pending := r.pending ++ line.dropLast } := if_pos continued

theorem take_of_complete (complete : isContinued line = false) : r.take line =
    ⟨r.entries.insert (readEntry (r.pending ++ line)).1 (readEntry (r.pending ++ line)).2, []⟩ :=
  if_neg (ne_true_of_eq_false complete)

end Reader
end WideColumn.Properties
