import WideColumn.Proofs.OrderedMap
import WideColumn.Proofs.Properties.Line
import WideColumn.Proofs.Text.Lines

/-! Entries that are written and read again. In a key every character that ends one or starts a
comment is escaped, in a value none is; and a reader finds all entries, in their order. -/
namespace WideColumn.Properties

open Text (isBlank trim OneLine Trimmed)

/-- Whether a character is escaped in a key: it would end the key, or make a comment of the line. -/
def isSpecial (c : Char) : Bool := isSeparator c || c = '#' || c = '!'

def escape (key : List Char) : List Char :=
  key.flatMap fun c => if isSpecial c then ['\\', c] else [c]

/-- The line of an entry. -/
def spell (e : String × String) : List Char := escape e.1.toList ++ '=' :: e.2.toList

/-- A text with one entry on each line. -/
def write (m : Entries) : List Char := Text.ofLines (m.entries.map spell)

/-- An entry that can be written on one line without an escape in its value. -/
structure Writable (e : String × String) : Prop where
  keyPlain : '\\' ∉ e.1.toList
  keyOneLine : OneLine e.1.toList
  keyEnd : ∀ c, e.1.toList.getLast? = some c → isBlank c = false
  valueOneLine : OneLine e.2.toList
  valueTrimmed : Trimmed e.2.toList
  valueEnd : ∀ n, EndsIn n e.2.toList → n % 2 = 0

variable {key : List Char} {e : String × String}

instance : Decidable (Writable e) :=
  decidable_of_iff ('\\' ∉ e.1.toList ∧ OneLine e.1.toList ∧
      e.1.toList.getLast?.any isBlank = false ∧ OneLine e.2.toList ∧ Trimmed e.2.toList ∧
      isContinued e.2.toList = false) <| by
    rw [isContinued_eq_false_iff, Option.any_eq_false]
    exact ⟨fun ⟨a, b, c, d, e, f⟩ => ⟨a, b, c, d, e, f⟩, fun ⟨a, b, c, d, e, f⟩ => ⟨a, b, c, d, e, f⟩⟩

/-! The key. -/

theorem isSpecial_eq_false_iff {c : Char} :
    isSpecial c = false ↔ isSeparator c = false ∧ c ≠ '#' ∧ c ≠ '!' := by
  simp [isSpecial, and_assoc]

theorem escape_cons (c : Char) (key : List Char) :
    escape (c :: key) = (if isSpecial c then ['\\', c] else [c]) ++ escape key :=
  List.flatMap_cons

theorem filter_escape (plain : '\\' ∉ key) : (escape key).filter (· ≠ '\\') = key := by
  induction key with
  | nil => rfl
  | cons c key ih =>
    obtain ⟨other, later⟩ := not_or.mp (mt List.mem_cons.mpr plain)
    rw [escape_cons, List.filter_append, ih later]
    by_cases special : isSpecial c = true <;> simp [special, Ne.symm other]

theorem splitSeparator_escape (plain : '\\' ∉ key) : splitSeparator false (escape key) = none := by
  induction key with
  | nil => rfl
  | cons c key ih =>
    obtain ⟨other, later⟩ := not_or.mp (mt List.mem_cons.mpr plain)
    have next : decide (c = '\\') = false := decide_eq_false (Ne.symm other)
    have backslash : isSeparator '\\' = false := by decide
    rw [escape_cons]
    -- An escaped character has a backslash before it, and the next one has none.
    by_cases special : isSpecial c = true
    · simp [special, splitSeparator, backslash, next, ih later]
    · have ordinary := isSpecial_eq_false_iff.mp (Bool.eq_false_iff.mpr special)
      simp [special, splitSeparator, ordinary.1, next, ih later]

theorem getLast?_escape (key : List Char) : (escape key).getLast? = key.getLast? := by
  rcases List.eq_nil_or_concat key with rfl | ⟨front, c, rfl⟩
  · rfl
  · rw [List.concat_eq_append, escape, List.flatMap_append, List.getLast?_append]
    by_cases special : isSpecial c = true <;> simp [special]

/-- An escaped key starts with no blank, and makes no comment. -/
theorem head?_escape {c : Char} (first : (escape key).head? = some c) :
    isBlank c = false ∧ c ≠ '#' ∧ c ≠ '!' := by
  cases key with
  | nil => cases first
  | cons d key =>
    rw [escape_cons] at first
    by_cases special : isSpecial d = true
    · simp only [special, if_true, List.cons_append, List.head?_cons] at first
      cases first
      decide
    · simp only [special, if_false, Bool.false_eq_true, List.cons_append, List.head?_cons] at first
      cases first
      obtain ⟨separator, others⟩ := isSpecial_eq_false_iff.mp (Bool.eq_false_iff.mpr special)
      exact ⟨(Bool.or_eq_false_iff.mp separator).2, others⟩

theorem trim_escape (keyEnd : ∀ c, key.getLast? = some c → isBlank c = false) :
    trim (escape key) = escape key := by
  apply Trimmed.trim_eq_self
  constructor
  · intro c first
    exact (head?_escape first).1
  · intro c last
    exact keyEnd c (getLast?_escape key ▸ last)

/-! The line. -/

theorem head?_spell {c : Char} (first : (spell e).head? = some c) :
    isBlank c = false ∧ c ≠ '#' ∧ c ≠ '!' := by
  rw [spell, List.head?_append] at first
  cases start : (escape e.1.toList).head? with
  | some d =>
    simp only [start, Option.some_or] at first
    exact head?_escape (start.trans first)
  | none =>
    simp only [start, Option.none_or, List.head?_cons] at first
    cases first
    decide

theorem trimmed_spell (value : Trimmed e.2.toList) : Trimmed (spell e) := by
  constructor
  · intro c first
    exact (head?_spell first).1
  · intro c last
    rw [spell, List.getLast?_append, List.getLast?_cons, Option.some_or] at last
    cases valueLast : e.2.toList.getLast? with
    | some d =>
      simp only [valueLast, Option.getD_some] at last
      exact value.last c (valueLast.trans last)
    | none =>
      simp only [valueLast, Option.getD_none] at last
      cases last
      decide

theorem isSkipped_spell (e : String × String) : isSkipped (spell e) = false := by
  cases start : spell e with
  | nil => simp [spell] at start
  | cons c rest =>
    obtain ⟨-, hash, mark⟩ := head?_spell (congrArg List.head? start)
    simp [isSkipped, hash, mark]

theorem isContinued_spell (valueEnd : ∀ n, EndsIn n e.2.toList → n % 2 = 0) :
    isContinued (spell e) = false := by
  rw [spell, isContinued_append (by decide)]
  exact isContinued_eq_false_iff.mpr valueEnd

theorem readEntry_spell (writable : Writable e) : readEntry (spell e) = e := by
  have keyLast : (escape e.1.toList).getLast? ≠ some '\\' := by
    rw [getLast?_escape]
    exact fun last => writable.keyPlain (List.mem_of_getLast? last)
  have separated : splitSeparator false (spell e) =
      some (escape e.1.toList, '=', e.2.toList) := by
    rw [spell, splitSeparator_append_of_none (splitSeparator_escape writable.keyPlain),
      escapedAfter_of_other keyLast]
    simp [splitSeparator, isSeparator]
  have value : readValue '=' e.2.toList = e.2.toList := by
    have notBlank : isBlank '=' = false := by decide
    rw [readValue, writable.valueTrimmed.trim_eq_self]
    cases e.2.toList <;> simp [notBlank]
  rw [readEntry, separated]
  simp only [trim_escape writable.keyEnd, filter_escape writable.keyPlain, value,
    String.ofList_toList]

theorem oneLine_spell (writable : Writable e) : OneLine (spell e) := by
  intro c member
  rw [spell, List.mem_append, List.mem_cons, escape, List.mem_flatMap] at member
  rcases member with ⟨d, isKey, member⟩ | rfl | isValue
  · have inside := writable.keyOneLine d isKey
    by_cases special : isSpecial d = true
    · simp only [special, if_true, List.mem_cons, List.not_mem_nil, or_false] at member
      rcases member with rfl | rfl
      · decide
      · exact inside
    · simp only [special, if_false, Bool.false_eq_true, List.mem_singleton] at member
      exact member ▸ inside
  · decide
  · exact writable.valueOneLine c isValue

/-! The text. -/

theorem readLine_spell (writable : Writable e) {r : Reader} (fresh : r.pending = []) :
    r.readLine (spell e) = ⟨r.entries.insert e.1 e.2, []⟩ := by
  rw [Reader.readLine_fresh fresh, (trimmed_spell writable.valueTrimmed).trim_eq_self,
    isSkipped_spell, Reader.take_of_complete (isContinued_spell writable.valueEnd), fresh,
    List.nil_append, readEntry_spell writable]
  rfl

theorem foldl_readLine_spell {entries : List (String × String)}
    (writable : ∀ e ∈ entries, Writable e) (read : Entries) :
    (entries.map spell).foldl Reader.readLine ⟨read, []⟩ = ⟨read.insertAll entries, []⟩ := by
  induction entries generalizing read with
  | nil => rfl
  | cons e entries ih =>
    obtain ⟨first, others⟩ := List.forall_mem_cons.mp writable
    rw [List.map_cons, List.foldl_cons, readLine_spell first rfl, ih others]
    rfl

theorem parse_of_lines {m : Entries} (distinct : m.keys.Nodup)
    (writable : ∀ e ∈ m.entries, Writable e) {text : List Char}
    (spelled : Text.lines text = m.entries.map spell) : parse text = m := by
  rw [parse, readAll, spelled, foldl_readLine_spell writable]
  have all := OrderedMap.entries_insertAll (m := ∅) distinct fun e _ => List.not_mem_nil
  exact congrArg OrderedMap.mk all

/-- Entries with different keys, written one to a line, are read as they are and in their order,
whatever the line breaks are. -/
theorem parse_write {m : Entries} (distinct : m.keys.Nodup)
    (writable : ∀ e ∈ m.entries, Writable e) :
    parse (write m) = m ∧
      ∀ text, Text.lines text = m.entries.map spell → parse text = m := by
  have oneLine : ∀ line ∈ m.entries.map spell, OneLine line := by
    intro line member
    obtain ⟨e, isEntry, rfl⟩ := List.mem_map.mp member
    exact oneLine_spell (writable e isEntry)
  constructor
  · exact parse_of_lines distinct writable (Text.lines_ofLines oneLine)
  · exact fun text spelled => parse_of_lines distinct writable spelled

/-- Keys that look like a comment, start with a blank or are empty, and values with separators,
escapes and a placeholder. -/
theorem parse_write_awkward :
    let m : Entries := ⟨[("#a b=", "!x:=${y}"), ("\x1f!:", "c\\n\\\\"), ("", ""), ("k", "#")]⟩
    m.keys.Nodup ∧ (∀ e ∈ m.entries, Writable e) ∧ parse (write m) = m ∧
      parse ("\\#a\\ b\\==!x:=${y}\r\n\\\x1f\\!\\:=c\\n\\\\\r=\u2028k=#").toList = m := by
  intro m
  have distinct : m.keys.Nodup := by decide
  have writable : ∀ e ∈ m.entries, Writable e := by decide +kernel
  obtain ⟨written, spelled⟩ := parse_write distinct writable
  exact ⟨distinct, writable, written, spelled _ (by decide +kernel)⟩

end WideColumn.Properties
