import WideColumn.Text.Blank

/-! Texts made of lines. -/
namespace WideColumn.Text

/-- There is no line break in a text. -/
def OneLine (cs : List Char) : Prop := ∀ c ∈ cs, isLineBreak c = false

instance {cs : List Char} : Decidable (OneLine cs) :=
  List.decidableBAll (fun c => isLineBreak c = false) cs

/-- The text of lines that each end in a line feed. -/
def ofLines (ls : List (List Char)) : List Char := ls.flatMap fun line => line ++ ['\n']

theorem lines_cons {c : Char} (inside : isLineBreak c = false) (rest : List Char) :
    lines (c :: rest) = consLine c (lines rest) := by
  rw [lines.eq_def]
  split
  · next empty => cases empty
  · next more whole =>
    cases whole
    cases inside
  · next d more _ whole =>
    cases whole
    rw [inside]
    rfl

theorem lines_append {line : List Char} (oneLine : OneLine line) (rest : List Char) :
    lines (line ++ '\n' :: rest) = line :: lines rest := by
  induction line with
  | nil => rfl
  | cons c line ih =>
    obtain ⟨inside, others⟩ := List.forall_mem_cons.mp oneLine
    rw [List.cons_append, lines_cons inside, ih others, consLine]

theorem lines_ofLines {ls : List (List Char)} (oneLine : ∀ line ∈ ls, OneLine line) :
    lines (ofLines ls) = ls := by
  induction ls with
  | nil => rfl
  | cons line ls ih =>
    obtain ⟨first, others⟩ := List.forall_mem_cons.mp oneLine
    have cut : ofLines (line :: ls) = line ++ '\n' :: ofLines ls := by simp [ofLines]
    rw [cut, lines_append first, ih others]

theorem lines_break {c : Char} {rest : List Char} (ends : isLineBreak c = true)
    (lone : c = '\r' → rest.head? ≠ some '\n') : lines (c :: rest) = [] :: lines rest := by
  rw [lines.eq_def]
  split
  · next empty => cases empty
  · next more whole =>
    cases whole
    exact absurd rfl (lone rfl)
  · next d more _ whole =>
    cases whole
    rw [if_pos ends]

theorem consLine_ne_nil (c : Char) (ls : List (List Char)) : consLine c ls ≠ [] := by
  cases ls with
  | nil => exact List.cons_ne_nil _ _
  | cons line ls => exact List.cons_ne_nil _ _

theorem lines_ne_nil (c : Char) (rest : List Char) : lines (c :: rest) ≠ [] := by
  rw [lines.eq_def]
  split
  · next empty => cases empty
  · exact List.cons_ne_nil _ _
  · split
    · exact List.cons_ne_nil _ _
    · exact consLine_ne_nil _ _

theorem consLine_append {ls : List (List Char)} (some : ls ≠ []) (c : Char)
    (more : List (List Char)) : consLine c (ls ++ more) = consLine c ls ++ more := by
  cases ls with
  | nil => exact absurd rfl some
  | cons line ls => rfl

/-- A line feed between two texts ends the last line of the first one. If that has ended before, and
not with a carriage return, there is one more empty line. -/
theorem exists_blank (first : List Char) : ∃ blank : List (List Char),
    (∀ line ∈ blank, line = []) ∧
      ∀ more, lines (first ++ '\n' :: more) = lines first ++ blank ++ lines more := by
  fun_induction lines first with
  | case1 => exact ⟨[[]], by simp, fun more => rfl⟩
  | case2 rest ih =>
    obtain ⟨blank, empty, cut⟩ := ih
    refine ⟨blank, empty, fun more => ?_⟩
    show [] :: lines (rest ++ '\n' :: more) = _
    rw [cut]
    rfl
  | case3 c rest lone ends ih =>
    obtain ⟨blank, empty, cut⟩ := ih
    by_cases last : c = '\r' ∧ rest = []
    · obtain ⟨rfl, rfl⟩ := last
      exact ⟨[], by simp, fun more => rfl⟩
    · refine ⟨blank, empty, fun more => ?_⟩
      rw [List.cons_append, lines_break ends, cut]
      · simp
      · rintro rfl feed
        cases rest with
        | nil => exact last ⟨rfl, rfl⟩
        | cons d rest =>
          cases feed
          exact lone _ rfl rfl
  | case4 c rest lone inside ih =>
    obtain ⟨blank, empty, cut⟩ := ih
    have kept := lines_cons (Bool.eq_false_iff.mpr inside)
    cases rest with
    | nil => exact ⟨[], by simp, fun more => kept ('\n' :: more)⟩
    | cons d rest =>
      refine ⟨blank, empty, fun more => ?_⟩
      rw [List.cons_append, kept, cut, List.append_assoc, consLine_append (lines_ne_nil d rest),
        List.append_assoc]

/-- What is behind a line feed has its lines to itself. -/
theorem lines_append_newline (first more : List Char) :
    lines (first ++ '\n' :: more) = lines (first ++ ['\n']) ++ lines more := by
  obtain ⟨blank, -, cut⟩ := exists_blank first
  have alone : lines [] = [] := rfl
  rw [cut, cut [], alone, List.append_nil]

/-- How the line breaks of a text are written makes no difference to its lines. -/
theorem lines_unifyBreaks (cs : List Char) : lines (unifyBreaks cs) = lines cs := by
  fun_induction unifyBreaks cs with
  | case1 => rfl
  | case2 rest ih =>
    rw [lines_break rfl (by simp), ih]
    rfl
  | case3 c rest lone ih =>
    have apart : c = '\r' → rest.head? ≠ some '\n' := by
      rintro rfl feed
      obtain ⟨more, rfl⟩ := List.head?_eq_some_iff.mp feed
      exact lone _ rfl rfl
    by_cases isReturn : c = '\r'
    · subst isReturn
      rw [if_pos rfl, lines_break rfl (by simp), lines_break rfl apart, ih]
    rw [if_neg isReturn]
    cases ends : isLineBreak c with
    | true => rw [lines_break ends fun same => absurd same isReturn, lines_break ends apart, ih]
    | false => rw [lines_cons ends, lines_cons ends, ih]

end WideColumn.Text
