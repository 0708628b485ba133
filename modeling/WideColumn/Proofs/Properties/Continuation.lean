import WideColumn.Proofs.Properties.Line

/-! Entries that go on over several lines. The lines of an entry are read as the one line that they
are joined to, where all but the first are joined without the blanks in front of them. -/
namespace WideColumn.Properties

open Text (isBlank isBlankText trim trimLeft lastVisible?)

/-- The lines of an entry that is written in segments. A segment that is not the last one has a
backslash behind it, and one that is not the first has blanks in front. -/
def continued (first : List Char) : List (List Char × List Char) → List (List Char)
  | [] => [first]
  | (blanks, segment) :: more => (first ++ ['\\']) :: continued (blanks ++ segment) more

/-- The one line that the segments are joined to. -/
def joined (first : List Char) (more : List (List Char × List Char)) : List Char :=
  first ++ more.flatMap fun part => trimLeft part.2

/-- A line that is no comment, whatever blanks are in front of it. -/
def NoComment (line : List Char) : Prop :=
  ∀ c, (trimLeft line).head? = some c → c ≠ '#' ∧ c ≠ '!'

theorem NoComment.of_append {line rest : List Char} (noComment : NoComment (line ++ rest)) :
    NoComment line := by
  intro c first
  by_cases blank : isBlankText line = true
  · rw [Text.trimLeft_eq_nil_iff.mpr blank] at first
    cases first
  · apply noComment c
    rw [Text.trimLeft_append (Bool.eq_false_iff.mpr blank), List.head?_append, first]
    rfl

theorem trimLeft_backslash (line : List Char) :
    trimLeft (line ++ ['\\']) = trimLeft line ++ ['\\'] := by
  by_cases blank : isBlankText line = true
  · rw [Text.trimLeft_blanks_append blank, Text.trimLeft_eq_nil_iff.mpr blank]
    rfl
  · exact Text.trimLeft_append (Bool.eq_false_iff.mpr blank) _

theorem trim_backslash (line : List Char) : trim (line ++ ['\\']) = trimLeft line ++ ['\\'] := by
  rw [trim, trimLeft_backslash]
  simp [Text.trimRight, Text.dropEndWhile, isBlank_backslash]

theorem isSkipped_trim {line : List Char} (noComment : NoComment line)
    (visible : isBlankText line = false) : isSkipped (trim line) = false := by
  obtain ⟨w, -, cut⟩ := Text.exists_trimRight (trimLeft line)
  cases start : trim line with
  | nil =>
    rw [Text.trim_eq_nil_iff.mp start] at visible
    cases visible
  | cons c rest =>
    have first : (trimLeft line).head? = some c := by
      rw [cut, ← trim, start]
      rfl
    obtain ⟨hash, mark⟩ := noComment c first
    simp [isSkipped, hash, mark]

theorem last_visible_append {before line : List Char} (left : lastVisible? before ≠ some '\\')
    (right : lastVisible? line ≠ some '\\') :
    lastVisible? (before ++ trimLeft line) ≠ some '\\' := by
  rw [Text.lastVisible?_append, Text.lastVisible?_trimLeft]
  cases found : lastVisible? line with
  | none => simpa using left
  | some c => simpa [found] using right

/-! What a reader does with a segment, where `before` is what has been joined before it. -/

namespace Reader

variable {r : Reader} {before line : List Char}

theorem readLine_goesOn (start : r.pending = trimLeft before)
    (noComment : NoComment (before ++ trimLeft line)) (other : line.getLast? ≠ some '\\') :
    r.readLine (line ++ ['\\']) = { r with pending := trimLeft (before ++ trimLeft line) } := by
  have continued : isContinued (trimLeft line ++ ['\\']) = true := by
    rw [← trimLeft_backslash, isContinued_trimLeft]
    exact isContinued_backslash other
  by_cases blank : isBlankText before = true
  · have fresh : r.pending = [] := start.trans (Text.trimLeft_eq_nil_iff.mpr blank)
    have joined : trimLeft (before ++ trimLeft line) = trimLeft line := by
      rw [Text.trimLeft_blanks_append blank, Text.trimLeft_trimLeft]
    have kept : isSkipped (trimLeft line ++ ['\\']) = false := by
      rw [NoComment, joined] at noComment
      cases first : trimLeft line with
      | nil => rfl
      | cons c rest =>
        obtain ⟨hash, mark⟩ := noComment c (congrArg List.head? first)
        simp [isSkipped, hash, mark]
    rw [readLine_fresh fresh, trim_backslash, kept, take_of_continued continued, fresh, joined,
      List.dropLast_concat]
    rfl
  · have visible : isBlankText before = false := Bool.eq_false_iff.mpr blank
    have pending : r.pending ≠ [] := by
      rw [start, ne_eq, Text.trimLeft_eq_nil_iff, visible]
      exact Bool.false_ne_true
    rw [readLine_pending pending, trimLeft_backslash, take_of_continued continued, start,
      Text.trimLeft_append visible, List.dropLast_concat]

/-- The last segment ends the entry that the joined line has. -/
theorem readLine_ends (start : r.pending = trimLeft before)
    (noComment : NoComment (before ++ trimLeft line)) (left : lastVisible? before ≠ some '\\')
    (right : lastVisible? line ≠ some '\\') :
    r.readLine line = { r with pending := [] }.readLine (before ++ trimLeft line) := by
  -- While nothing visible has been joined, a reader takes each line for the first one.
  by_cases blank : isBlankText before = true
  · have fresh : r.pending = [] := start.trans (Text.trimLeft_eq_nil_iff.mpr blank)
    have same : trim (before ++ trimLeft line) = trim line := by
      rw [trim, trim, Text.trimLeft_blanks_append blank, Text.trimLeft_trimLeft]
    rw [readLine_fresh fresh, readLine_fresh rfl, same, ← fresh]
  · have visible : isBlankText before = false := Bool.eq_false_iff.mpr blank
    have pending : r.pending ≠ [] := by
      rw [start, ne_eq, Text.trimLeft_eq_nil_iff, visible]
      exact Bool.false_ne_true
    have last := last_visible_append left right
    have whole : isBlankText (before ++ trimLeft line) = false := by
      rw [isBlankText, List.all_append, ← isBlankText, visible, Bool.false_and]
    have kept := isSkipped_trim noComment whole
    rw [← Text.lastVisible?_trim] at last
    obtain ⟨w, blanks, cut⟩ := Text.exists_trimRight (trimLeft (before ++ trimLeft line))
    have entry : readEntry (trimLeft before ++ trimLeft line) =
        readEntry (trim (before ++ trimLeft line)) := by
      rw [← Text.trimLeft_append visible, cut]
      exact readEntry_append_blanks blanks (Text.trim_trimmed _).first (.inr last)
    rw [readLine_pending pending, take_of_complete, start, entry, readLine_fresh rfl, kept,
      if_neg Bool.false_ne_true, take_of_complete, List.nil_append]
    · exact isContinued_of_other (last_ne_of_visible last)
    · rw [isContinued_trimLeft]
      exact isContinued_of_other (last_ne_of_visible right)

/-- Reading the lines of an entry one by one is reading the line that they are joined to. -/
theorem foldl_continued {first : List Char} {more : List (List Char × List Char)}
    (start : r.pending = trimLeft before)
    (blank : ∀ part ∈ more, isBlankText part.1 = true)
    (noComment : NoComment (before ++ joined (trimLeft first) more))
    (left : lastVisible? before ≠ some '\\')
    (right : ∀ segment ∈ first :: more.map Prod.snd, lastVisible? segment ≠ some '\\') :
    (continued first more).foldl readLine r =
      { r with pending := [] }.readLine (before ++ joined (trimLeft first) more) := by
  -- What stands before grows with each line, and what is pending with it.
  induction more generalizing r before first with
  | nil =>
    simp only [joined, List.flatMap_nil, List.append_nil] at noComment ⊢
    exact readLine_ends start noComment left (right first (.head _))
  | cons part more ih =>
    obtain ⟨w, segment⟩ := part
    obtain ⟨space, others⟩ := List.forall_mem_cons.mp blank
    obtain ⟨here, next, later⟩ : lastVisible? first ≠ some '\\' ∧
        lastVisible? segment ≠ some '\\' ∧
          ∀ s ∈ more.map Prod.snd, lastVisible? s ≠ some '\\' := by
      simpa using right
    have whole : before ++ joined (trimLeft first) ((w, segment) :: more) =
        (before ++ trimLeft first) ++ joined (trimLeft (w ++ segment)) more := by
      simp [joined, Text.trimLeft_blanks_append space]
    rw [whole] at noComment ⊢
    rw [continued, List.foldl_cons,
      readLine_goesOn start noComment.of_append (last_ne_of_visible here)]
    apply ih rfl others noComment
    · exact last_visible_append left here
    · rw [List.forall_mem_cons, Text.lastVisible?_append, Text.lastVisible?_eq_none_iff.mpr space,
        Option.or_none]
      exact ⟨next, later⟩

theorem trimLeft_joined (first : List Char) (more : List (List Char × List Char)) :
    trimLeft (joined (trimLeft first) more) = trimLeft (joined first more) :=
  Text.trimLeft_trimLeft_append first _

theorem foldl_continued_fresh {first : List Char} {more : List (List Char × List Char)}
    (fresh : r.pending = []) (blank : ∀ part ∈ more, isBlankText part.1 = true)
    (noComment : NoComment (joined first more))
    (ends : ∀ segment ∈ first :: more.map Prod.snd, lastVisible? segment ≠ some '\\') :
    (continued first more).foldl readLine r = r.readLine (joined first more) := by
  rw [NoComment, ← trimLeft_joined] at noComment
  have read : (continued first more).foldl readLine r =
      { r with pending := [] }.readLine ([] ++ joined (trimLeft first) more) :=
    foldl_continued fresh blank noComment nofun ends
  rw [List.nil_append, ← fresh] at read
  rw [read, readLine_fresh fresh, readLine_fresh fresh, trim, trim, trimLeft_joined]

end Reader

/-- An entry that goes on over lines has the same effect as the line that they are joined to,
between any lines that leave no entry unfinished and any others. None of the segments ends in a
backslash, with blanks behind it or not, and they are joined to no comment. -/
theorem parse_continued {text text' first : List Char} {more : List (List Char × List Char)}
    {before after : List (List Char)} (blank : ∀ part ∈ more, isBlankText part.1 = true)
    (ends : ∀ segment ∈ first :: more.map Prod.snd, lastVisible? segment ≠ some '\\')
    (noComment : NoComment (joined first more))
    (complete : (before.foldl Reader.readLine {}).pending = [])
    (apart : Text.lines text = before ++ continued first more ++ after)
    (single : Text.lines text' = before ++ joined first more :: after) :
    parse text = parse text' := by
  rw [parse, parse, readAll, readAll, apart, single, List.foldl_append, List.foldl_append,
    List.foldl_append, List.foldl_cons,
    Reader.foldl_continued_fresh complete blank noComment ends]

/-- A separator where two lines are joined, a line with a lone backslash and blanks around the
others, behind one entry and before a comment. -/
theorem parse_continued_hosts :
    let more : List (List Char × List Char) :=
      [([' ', '\t'], "= a,  ".toList), ([], []), (["\u00a0".front], "b ".toList)]
    Text.lines "x\nhosts\\\r\n \t= a,  \\\n\\\n\u00a0b \n#c".toList =
        ["x".toList] ++ continued "hosts".toList more ++ ["#c".toList] ∧
      joined "hosts".toList more = "hosts= a,  b ".toList ∧
      parse "x\nhosts\\\r\n \t= a,  \\\n\\\n\u00a0b \n#c".toList =
        parse "x\nhosts= a,  b \n#c".toList := by
  intro more
  have apart : Text.lines "x\nhosts\\\r\n \t= a,  \\\n\\\n\u00a0b \n#c".toList =
      ["x".toList] ++ continued "hosts".toList more ++ ["#c".toList] := by decide +kernel
  have same : joined "hosts".toList more = "hosts= a,  b ".toList := by decide +kernel
  refine ⟨apart, same, ?_⟩
  refine parse_continued ?_ ?_ ?_ ?_ apart ?_
  · decide +kernel
  · decide +kernel
  · rw [same]
    intro c first
    have start : (trimLeft "hosts= a,  b ".toList).head? = some 'h' := by decide +kernel
    cases start.symm.trans first
    decide
  · decide +kernel
  · decide +kernel

end WideColumn.Properties
