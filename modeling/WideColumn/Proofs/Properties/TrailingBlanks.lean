import WideColumn.Proofs.Properties.Line

/-! Blanks at the ends of lines. A reader leaves them out, unless it has the beginning of an entry:
then a backslash with blanks behind it does not continue the entry, and escapes the first of them.
-/
namespace WideColumn.Properties

open Text (isBlank isBlankText trim trimLeft lastVisible?)

/-- What a reader makes of a line: nothing, the beginning of an entry that goes on, or an entry. -/
inductive Effect
  | skipped
  | goesOn (pending : List Char)
  | read (entry : String × String)

def Effect.isGoingOn : Effect → Bool
  | .goesOn _ => true
  | .skipped | .read _ => false

/-- Blanks at the end of a line that do no harm, where a reader finds it. A backslash escapes the
first of several blanks, and the second one separates it from the key. -/
inductive Harmless (r : Reader) (line blanks : List Char) : Prop
  | fresh (fresh : r.pending = [])
  | visible (visible : lastVisible? line ≠ some '\\')
  | separated (complete : isContinued line = false)
      (found : (splitSeparator false (r.pending ++ trimLeft line)).isSome = true)
  | escaped (complete : isContinued line = false) (last : line.getLast? = some '\\')
      (several : 2 ≤ blanks.length)

/-- Lines to which spaces and tabs are appended, where a reader finds that they do no harm. -/
inductive Padded : Reader → List (List Char) → List (List Char) → Prop
  | done {r : Reader} : Padded r [] []
  | line {r : Reader} {line blanks : List Char} {lines padded : List (List Char)}
      (spaces : ∀ c ∈ blanks, c = ' ' ∨ c = '\t') (kept : blanks = [] ∨ Harmless r line blanks)
      (more : Padded (r.readLine line) lines padded) :
      Padded r (line :: lines) ((line ++ blanks) :: padded)

variable {r : Reader} {line blanks : List Char}

theorem Harmless.complete (harmless : Harmless r line blanks) (begun : r.pending ≠ []) :
    isContinued line = false := by
  cases harmless with
  | fresh empty => exact absurd empty begun
  | visible other => exact isContinued_of_other (last_ne_of_visible other)
  | separated complete _ => exact complete
  | escaped complete _ _ => exact complete

theorem harmless_iff (begun : r.pending ≠ []) (complete : isContinued line = false) :
    Harmless r line blanks ↔ (splitSeparator false (r.pending ++ trimLeft line)).isSome = true ∨
      lastVisible? line ≠ some '\\' ∨ line.getLast? = some '\\' ∧ 2 ≤ blanks.length := by
  constructor
  · intro harmless
    cases harmless with
    | fresh empty => exact absurd empty begun
    | visible other => exact .inr (.inl other)
    | separated _ found => exact .inl found
    | escaped _ backslash several => exact .inr (.inr ⟨backslash, several⟩)
  · rintro (found | other | ⟨backslash, several⟩)
    · exact .separated complete found
    · exact .visible other
    · exact .escaped complete backslash several

theorem isBlankText_of_spaces (spaces : ∀ c ∈ blanks, c = ' ' ∨ c = '\t') :
    isBlankText blanks = true := by
  rw [isBlankText, List.all_eq_true]
  intro c member
  rcases spaces c member with rfl | rfl
  · decide
  · decide

theorem head?_of_front {α : Type} {front as : List α} {a : α} (isFront : front <+: as)
    (first : front.head? = some a) : as.head? = some a := by
  obtain ⟨rest, rfl⟩ := isFront
  simp [first]

/-! The entry of a line without a separator. -/

theorem filter_blanks (blank : isBlankText blanks = true) :
    blanks.filter (· ≠ '\\') = blanks := by
  rw [List.filter_eq_self]
  intro c member
  simpa using ne_backslash_of_isBlank (List.all_eq_true.mp blank c member)

/-- A key has other characters when blanks are added to it. -/
theorem key_ne_append_blanks (blank : isBlankText blanks = true) (added : blanks ≠ [])
    (key : List Char) :
    String.ofList ((key ++ blanks).filter (· ≠ '\\')) ≠
      String.ofList (key.filter (· ≠ '\\')) := by
  rw [List.filter_append, filter_blanks blank, ne_eq, String.ofList_inj]
  simpa using added

/-- Blanks behind a backslash that is the last character are a part of the key if there is one of
them, and separate it from an empty value if there are more. -/
theorem readEntry_escaped_blanks (blank : isBlankText blanks = true) (added : blanks ≠ [])
    (starts : ∀ c, line.head? = some c → isBlank c = false)
    (unfound : splitSeparator false line = none) (last : line.getLast? = some '\\') :
    readEntry (line ++ blanks) = readEntry line ↔ 2 ≤ blanks.length := by
  have escaped : escapedAfter false line = true := by simp [escapedAfter, last]
  obtain ⟨b, rest, rfl⟩ := List.exists_cons_of_ne_nil added
  cases rest with
  | nil =>
    have none : splitSeparator false (line ++ [b]) = none := by
      rw [splitSeparator_append_of_none unfound, escaped]
      simp [splitSeparator]
    refine iff_of_false (fun same => ?_) (by simp)
    rw [readEntry, readEntry, none, unfound] at same
    exact key_ne_append_blanks blank added line (Prod.mk.inj same).1
  | cons c rest =>
    obtain ⟨first, more⟩ := Text.isBlankText_cons.mp blank
    obtain ⟨second, others⟩ := Text.isBlankText_cons.mp more
    have separated : splitSeparator false (line ++ b :: c :: rest) =
        some (line ++ [b], c, rest) := by
      have notEscaped : decide (b = '\\') = false :=
        decide_eq_false (ne_backslash_of_isBlank first)
      rw [splitSeparator_append_of_none unfound, escaped]
      simp [splitSeparator, notEscaped, isSeparator_of_isBlank second]
    have trimmed : Text.Trimmed line := by
      refine ⟨starts, fun c isLast => ?_⟩
      cases last.symm.trans isLast
      exact isBlank_backslash
    have one : isBlankText [b] = true := by simp [isBlankText, first]
    refine iff_of_true ?_ (by simp)
    rw [readEntry, readEntry, separated, unfound]
    simp only [Text.trim_append_blanks one, trimmed.trim_eq_self, readValue_blanks others]

/-- An escaped blank at the end is a part of the key, but no longer when others stand behind it. -/
theorem readEntry_behind_blank {c : Char} (blank : isBlankText blanks = true)
    (added : blanks ≠ []) (starts : ∀ c, line.head? = some c → isBlank c = false)
    (unfound : splitSeparator false line = none) (last : line.getLast? = some c)
    (lastBlank : isBlank c = true) : readEntry (line ++ blanks) ≠ readEntry line := by
  obtain ⟨b, rest, rfl⟩ := List.exists_cons_of_ne_nil added
  obtain ⟨first, others⟩ := Text.isBlankText_cons.mp blank
  have separated : splitSeparator false (line ++ b :: rest) = some (line, b, rest) := by
    have other : line.getLast? ≠ some '\\' := by
      simpa [last] using ne_backslash_of_isBlank lastBlank
    rw [splitSeparator_append_of_none unfound, escapedAfter_of_other other]
    simp [splitSeparator, isSeparator_of_isBlank first]
  have whole : trimLeft line = line := by
    cases line with
    | nil => rfl
    | cons d line => exact List.dropWhile_cons_of_neg (by simp [starts d rfl])
  -- The blanks at the end of the line were in its key, and are trimmed before a separator.
  obtain ⟨w, isBlankEnd, trimmed⟩ := Text.exists_trimRight (trimLeft line)
  have cut : line = trim line ++ w := whole.symm.trans trimmed
  have ends : w ≠ [] := by
    rintro rfl
    rw [List.append_nil] at cut
    have visible := (Text.trim_trimmed line).last c (cut ▸ last)
    rw [lastBlank] at visible
    cases visible
  intro same
  rw [readEntry, readEntry, separated, unfound] at same
  have keys := (Prod.mk.inj same).1
  apply key_ne_append_blanks isBlankEnd ends (trim line)
  rw [← cut]
  exact keys.symm

theorem readEntry_append_blanks_iff (blank : isBlankText blanks = true) (added : blanks ≠ [])
    (starts : ∀ c, line.head? = some c → isBlank c = false) :
    readEntry (line ++ blanks) = readEntry line ↔
      (splitSeparator false line).isSome = true ∨ lastVisible? line ≠ some '\\' ∨
        line.getLast? = some '\\' ∧ 2 ≤ blanks.length := by
  cases unfound : splitSeparator false line with
  | some parts =>
    exact iff_of_true (readEntry_append_blanks blank starts (.inl (by simp [unfound]))) (.inl rfl)
  | none =>
    by_cases visible : lastVisible? line ≠ some '\\'
    · exact iff_of_true (readEntry_append_blanks blank starts (.inr visible)) (.inr (.inl visible))
    cases last : line.getLast? with
    | none =>
      cases List.getLast?_eq_none_iff.mp last
      exact absurd nofun visible
    | some c =>
      by_cases backslash : c = '\\'
      · subst backslash
        rw [readEntry_escaped_blanks blank added starts unfound last]
        simp [not_not.mp visible]
      · have lastBlank : isBlank c = true := by
          rw [← Bool.not_eq_false]
          intro shown
          rw [Text.lastVisible?_of_last last shown] at visible
          exact visible fun same => backslash (Option.some.inj same)
        refine iff_of_false (readEntry_behind_blank blank added starts unfound last lastBlank) ?_
        simp [not_not.mp visible, backslash]

namespace Reader

/-- The beginning of an entry starts with no blank. -/
def Sound (r : Reader) : Prop := ∀ c, r.pending.head? = some c → isBlank c = false

theorem Sound.start : Sound {} := fun _ first => nomatch first

theorem Sound.take (sound : r.Sound) (starts : ∀ c, line.head? = some c → isBlank c = false) :
    (r.take line).Sound := by
  cases continued : isContinued line with
  | false =>
    rw [take_of_complete continued]
    exact nofun
  | true =>
    rw [take_of_continued continued]
    intro c first
    rw [List.head?_append] at first
    cases begun : r.pending.head? with
    | some d =>
      rw [begun, Option.some_or] at first
      exact sound c (begun.trans first)
    | none =>
      rw [begun, Option.none_or] at first
      exact starts c (head?_of_front (List.dropLast_prefix line) first)

theorem Sound.readLine (sound : r.Sound) (raw : List Char) : (r.readLine raw).Sound := by
  by_cases fresh : r.pending = []
  · rw [readLine_fresh fresh]
    split
    · exact sound
    · exact sound.take (Text.trim_trimmed raw).first
  · rw [readLine_pending fresh]
    exact sound.take fun c first => Text.head?_dropWhile first

theorem Sound.readLines (sound : r.Sound) (lines : List (List Char)) :
    (lines.foldl Reader.readLine r).Sound := by
  induction lines generalizing r with
  | nil => exact sound
  | cons line lines ih => exact ih (sound.readLine line)

/-- What a reader makes of a line without the blanks around it. -/
def effectOf (r : Reader) (line : List Char) : Effect :=
  if isContinued line then .goesOn (r.pending ++ line.dropLast)
  else .read (readEntry (r.pending ++ line))

def effect (r : Reader) (raw : List Char) : Effect :=
  if r.pending = [] then if isSkipped (trim raw) then .skipped else r.effectOf (trim raw)
  else r.effectOf (trimLeft raw)

/-- A reader that has made something of a line. -/
def after (r : Reader) : Effect → Reader
  | .skipped => r
  | .goesOn pending => { r with pending := pending }
  | .read (key, value) => ⟨r.entries.insert key value, []⟩

theorem take_eq_after (line : List Char) : r.take line = r.after (r.effectOf line) := by
  rw [take, effectOf]
  split
  · rfl
  · rfl

theorem readLine_eq_after (r : Reader) (raw : List Char) :
    r.readLine raw = r.after (r.effect raw) := by
  by_cases fresh : r.pending = []
  · rw [readLine_fresh fresh, effect, if_pos fresh]
    split
    · rfl
    · exact take_eq_after _
  · rw [readLine_pending fresh, effect, if_neg fresh]
    exact take_eq_after _

theorem isGoingOn_effectOf (line : List Char) :
    (r.effectOf line).isGoingOn = isContinued line := by
  rw [effectOf]
  split
  · next continued => exact continued.symm
  · next complete => exact (Bool.eq_false_iff.mpr complete).symm

theorem effectOf_of_complete (complete : isContinued line = false) :
    r.effectOf line = .read (readEntry (r.pending ++ line)) :=
  if_neg (ne_true_of_eq_false complete)

theorem effect_fresh_append_blanks (fresh : r.pending = []) (blank : isBlankText blanks = true) :
    r.effect (line ++ blanks) = r.effect line := by
  rw [effect, effect, if_pos fresh, if_pos fresh, Text.trim_append_blanks blank]

/-- A line that goes on with an entry, and on which something is visible. -/
theorem effect_begun_append_blanks (sound : r.Sound) (begun : r.pending ≠ [])
    (shown : isBlankText line = false) (blank : isBlankText blanks = true)
    (added : blanks ≠ []) : r.effect (line ++ blanks) = r.effect line ↔ Harmless r line blanks := by
  have starts : ∀ c, (r.pending ++ trimLeft line).head? = some c → isBlank c = false := by
    intro c first
    obtain ⟨d, rest, begins⟩ := List.exists_cons_of_ne_nil begun
    apply sound c
    simpa [begins] using first
  rw [effect, effect, if_neg begun, if_neg begun, Text.trimLeft_append shown,
    effectOf_of_complete (isContinued_append_blanks blank added _), ← List.append_assoc]
  cases complete : isContinued line with
  | true =>
    have goesOn : r.effectOf (trimLeft line) = .goesOn (r.pending ++ (trimLeft line).dropLast) :=
      if_pos ((isContinued_trimLeft line).trans complete)
    refine iff_of_false (by simp [goesOn]) fun harmless => ?_
    cases complete.symm.trans (harmless.complete begun)
  | false =>
    rw [effectOf_of_complete ((isContinued_trimLeft line).trans complete), Effect.read.injEq,
      readEntry_append_blanks_iff blank added starts, harmless_iff begun complete,
      Text.lastVisible?_append_trimLeft shown, Text.getLast?_append_trimLeft shown]

/-- A reader makes of a line what it makes of it without blanks, just if they do no harm. -/
theorem effect_append_blanks (sound : r.Sound) (blank : isBlankText blanks = true)
    (added : blanks ≠ []) : r.effect (line ++ blanks) = r.effect line ↔ Harmless r line blanks := by
  by_cases fresh : r.pending = []
  · exact iff_of_true (effect_fresh_append_blanks fresh blank) (.fresh fresh)
  cases shown : isBlankText line with
  | false => exact effect_begun_append_blanks sound fresh shown blank added
  | true =>
    have none : lastVisible? line = none := Text.lastVisible?_eq_none_iff.mpr shown
    rw [effect, effect, if_neg fresh, if_neg fresh, Text.trimLeft_blanks_append shown,
      Text.trimLeft_eq_nil_iff.mpr shown, Text.trimLeft_eq_nil_iff.mpr blank]
    exact iff_of_true rfl (.visible (by simp [none]))

/-- Whether an entry goes on after a line depends on blanks behind a backslash, when the entry was
begun before. -/
theorem isGoingOn_append_blanks (blank : isBlankText blanks = true) (added : blanks ≠ []) :
    (r.effect (line ++ blanks)).isGoingOn = (r.effect line).isGoingOn ↔
      r.pending = [] ∨ isContinued line = false := by
  by_cases fresh : r.pending = []
  · exact iff_of_true (by rw [effect_fresh_append_blanks fresh blank]) (.inl fresh)
  · rw [effect, effect, if_neg fresh, if_neg fresh, isGoingOn_effectOf, isGoingOn_effectOf,
      isContinued_trimLeft, isContinued_trimLeft, isContinued_append_blanks blank added]
    exact ⟨fun same => .inr same.symm, fun either => (either.resolve_left fresh).symm⟩

theorem foldl_padded {lines padded : List (List Char)} (sound : r.Sound)
    (pads : Padded r lines padded) : padded.foldl readLine r = lines.foldl readLine r := by
  induction pads with
  | done => rfl
  | @line r line blanks lines padded spaces kept more ih =>
    have same : r.effect (line ++ blanks) = r.effect line := by
      by_cases added : blanks = []
      · rw [added, List.append_nil]
      · rw [effect_append_blanks sound (isBlankText_of_spaces spaces) added]
        exact kept.resolve_left added
    rw [List.foldl_cons, List.foldl_cons, readLine_eq_after r (line ++ blanks), same,
      ← readLine_eq_after]
    exact ih (sound.readLine line)

end Reader

/-- Spaces and tabs at the ends of the lines of a text do not change what it holds, where they do no
harm; and on every line a reader makes something else of it just where they do. They do none on a
line that does not go on with an entry, nor on one whose last visible character is no backslash, nor
on the last line of an entry with a separator. Whether an entry goes on after a line is decided
alike with blanks and without, unless it was begun before and goes on without. -/
theorem parse_padded (text : List Char) :
    (∀ text', Padded {} (Text.lines text) (Text.lines text') → parse text' = parse text) ∧
    ∀ before line after blanks, Text.lines text = before ++ line :: after →
      (∀ c ∈ blanks, c = ' ' ∨ c = '\t') → blanks ≠ [] →
      let r : Reader := before.foldl Reader.readLine {}
      (r.effect (line ++ blanks) = r.effect line ↔ Harmless r line blanks) ∧
      ((r.effect (line ++ blanks)).isGoingOn = (r.effect line).isGoingOn ↔
        r.pending = [] ∨ isContinued line = false) := by
  constructor
  · intro text' pads
    rw [parse, parse, readAll, readAll, Reader.foldl_padded .start pads]
  · intro before line _ blanks _ spaces added r
    have blank := isBlankText_of_spaces spaces
    constructor
    · exact Reader.effect_append_blanks (Reader.Sound.start.readLines before) blank added
    · exact Reader.isGoingOn_append_blanks blank added

/-- Blanks behind the backslash of the first line, and behind the last line, do no harm. Behind the
backslash of the second line a blank ends the entry. -/
theorem parse_padded_second_line :
    let text := "hosts=a,\\\n b,\\\n c".toList
    let padded := "hosts=a,\\ \n b,\\\n c\t".toList
    let begun : Reader := { pending := "hosts=a,".toList }
    Padded {} (Text.lines text) (Text.lines padded) ∧ parse padded = parse text ∧
      ¬ Harmless begun " b,\\".toList [' '] ∧
      (begun.effect " b,\\ ".toList).isGoingOn ≠ (begun.effect " b,\\".toList).isGoingOn ∧
      parse text = ⟨[("hosts", "a,b,c")]⟩ ∧
      parse "hosts=a,\\\n b,\\ \n c".toList = ⟨[("hosts", "a,b,\\"), ("c", "")]⟩ := by
  intro text padded begun
  have apart : Text.lines text = ["hosts=a,\\".toList, " b,\\".toList, " c".toList] := by
    decide +kernel
  have pads : Padded {} (Text.lines text) (Text.lines padded) := by
    have apart' : Text.lines padded =
        ["hosts=a,\\".toList ++ [' '], " b,\\".toList ++ [], " c".toList ++ ['\t']] := by
      decide +kernel
    rw [apart, apart']
    refine .line (by simp) (.inr (.fresh rfl)) ?_
    refine .line nofun (.inl rfl) ?_
    refine .line (by simp) (.inr (.visible ?_)) .done
    decide +kernel
  obtain ⟨unchanged, decided⟩ := parse_padded text
  have second := decided ["hosts=a,\\".toList] _ _ [' '] apart (by simp) (by simp)
  have here : ["hosts=a,\\".toList].foldl Reader.readLine {} = begun := by decide +kernel
  rw [here] at second
  have differs : ¬ (begun.pending = [] ∨ isContinued " b,\\".toList = false) := by decide +kernel
  refine ⟨pads, unchanged padded pads, fun harmless => ?_, ?_, ?_, ?_⟩
  · have same := congrArg Effect.isGoingOn (second.1.mpr harmless)
    exact differs (second.2.mp same)
  · exact fun same => differs (second.2.mp same)
  · decide +kernel
  · decide +kernel

end WideColumn.Properties
