import WideColumn.Proofs.Bytes.Utf8
import WideColumn.Proofs.OrderedMap
import WideColumn.Proofs.Properties.Line
import WideColumn.Proofs.Text.Lines
import WideColumn.Properties.Basic

/-! Property files that are read one after the other. A reader that has no beginning of an entry
makes of a line what a new reader makes of it, so a text behind another one has the entries that it
has on its own, and they are written over the entries in front. -/
namespace WideColumn.Properties

/-- The entries of a property file, if its bytes spell a text. -/
def entriesOf? (content : Bytes) : Option Entries := (Utf8.decode? content).map parse

/-- No entry goes on at the end of a property file. -/
def Complete (content : Bytes) : Prop :=
  ∀ text, Utf8.decode? content = some text → (readAll text).pending = []

instance {content : Bytes} : Decidable (Complete content) :=
  decidable_of_iff ((Utf8.decode? content).all fun text => (readAll text).pending.isEmpty) <| by
    simp [Complete, Option.all_eq_true]

/-- The contents of files in one, with a line feed between any two of them. -/
def concatenated (contents : List Bytes) : Bytes := [0x0a].intercalate contents

namespace Reader

variable {r : Reader}

/-- What a reader has read, written over entries that were there before. -/
def onto (r : Reader) (m : Entries) : Reader := ⟨m.update r.entries, r.pending⟩

theorem take_onto (once : r.entries.keys.Nodup) (m : Entries) (line : List Char) :
    (r.onto m).take line = (r.take line).onto m := by
  cases continued : isContinued line with
  | true =>
    rw [take_of_continued continued, take_of_continued continued]
    rfl
  | false =>
    rw [take_of_complete continued, take_of_complete continued, onto, onto,
      OrderedMap.update_insert once]

theorem readLine_onto (once : r.entries.keys.Nodup) (m : Entries) (raw : List Char) :
    (r.onto m).readLine raw = (r.readLine raw).onto m := by
  by_cases fresh : r.pending = []
  · have still : (r.onto m).pending = [] := fresh
    rw [readLine_fresh fresh, readLine_fresh still]
    split
    · rfl
    · exact take_onto once m _
  · have still : (r.onto m).pending ≠ [] := fresh
    rw [readLine_pending fresh, readLine_pending still]
    exact take_onto once m _

theorem nodup_take (once : r.entries.keys.Nodup) (line : List Char) :
    (r.take line).entries.keys.Nodup := by
  cases continued : isContinued line with
  | true =>
    rw [take_of_continued continued]
    exact once
  | false =>
    rw [take_of_complete continued]
    exact OrderedMap.nodup_keys_insert once _ _

theorem nodup_readLine (once : r.entries.keys.Nodup) (raw : List Char) :
    (r.readLine raw).entries.keys.Nodup := by
  by_cases fresh : r.pending = []
  · rw [readLine_fresh fresh]
    split
    · exact once
    · exact nodup_take once _
  · rw [readLine_pending fresh]
    exact nodup_take once _

theorem nodup_readLines (once : r.entries.keys.Nodup) (lines : List (List Char)) :
    (lines.foldl readLine r).entries.keys.Nodup := by
  induction lines generalizing r with
  | nil => exact once
  | cons line lines ih => exact ih (nodup_readLine once line)

theorem readLines_onto (once : r.entries.keys.Nodup) (m : Entries) (lines : List (List Char)) :
    lines.foldl readLine (r.onto m) = (lines.foldl readLine r).onto m := by
  induction lines generalizing r with
  | nil => rfl
  | cons line lines ih =>
    rw [List.foldl_cons, List.foldl_cons, readLine_onto once]
    exact ih (nodup_readLine once line)

/-- Empty lines are nothing to a reader that has no beginning of an entry. -/
theorem readLines_empty {lines : List (List Char)} (fresh : r.pending = [])
    (empty : ∀ line ∈ lines, line = []) : lines.foldl readLine r = r := by
  induction lines with
  | nil => rfl
  | cons line lines ih =>
    obtain ⟨rfl, others⟩ := List.forall_mem_cons.mp empty
    have skipped : r.readLine [] = r := readLine_fresh fresh []
    rw [List.foldl_cons, skipped, ih others]

end Reader

/-! Texts. -/

theorem nodup_start : (({} : Reader).entries).keys.Nodup := List.nodup_nil

theorem nodup_parse (text : List Char) : (parse text).keys.Nodup :=
  Reader.nodup_readLines nodup_start _

/-- Whether a text ends in a line feed is nothing to a reader, if no entry goes on at its end. -/
theorem readAll_newline {text : List Char} (complete : (readAll text).pending = []) :
    readAll (text ++ ['\n']) = readAll text := by
  obtain ⟨blank, empty, cut⟩ := Text.exists_blank text
  have lines : Text.lines (text ++ ['\n']) = Text.lines text ++ blank :=
    (cut []).trans (List.append_nil _)
  rw [readAll, lines, List.foldl_append, ← readAll, Reader.readLines_empty complete empty]

theorem readAll_append {first : List Char} (complete : (readAll (first ++ ['\n'])).pending = [])
    (more : List Char) :
    readAll (first ++ '\n' :: more) = (readAll more).onto (parse (first ++ ['\n'])) := by
  have start : readAll (first ++ ['\n']) = Reader.onto {} (parse (first ++ ['\n'])) :=
    congrArg (Reader.mk _) complete
  calc readAll (first ++ '\n' :: more)
    _ = (Text.lines more).foldl Reader.readLine (readAll (first ++ ['\n'])) := by
        rw [readAll, Text.lines_append_newline, List.foldl_append, ← readAll]
    _ = (Text.lines more).foldl Reader.readLine (Reader.onto {} (parse (first ++ ['\n']))) := by
        rw [← start]
    _ = (readAll more).onto (parse (first ++ ['\n'])) := Reader.readLines_onto nodup_start _ _

/-- A text behind one that ends in a line feed. -/
theorem parse_append_ended {first : List Char}
    (complete : (readAll (first ++ ['\n'])).pending = []) (more : List Char) :
    parse (first ++ '\n' :: more) = (parse (first ++ ['\n'])).update (parse more) :=
  congrArg Reader.entries (readAll_append complete more)

theorem parse_append {first : List Char} (complete : (readAll first).pending = [])
    (more : List Char) : parse (first ++ '\n' :: more) = (parse first).update (parse more) := by
  have ended := readAll_newline complete
  rw [← ended] at complete
  rw [parse_append_ended complete, parse, ended]
  rfl

theorem parse_unifyBreaks (text : List Char) : parse (Text.unifyBreaks text) = parse text := by
  rw [parse, readAll, Text.lines_unifyBreaks]
  rfl

/-! Files. -/

theorem nodup_entriesOf? {content : Bytes} {entries : Entries}
    (read : entriesOf? content = some entries) : entries.keys.Nodup := by
  obtain ⟨text, -, rfl⟩ := Option.map_eq_some_iff.mp read
  exact nodup_parse text

theorem entriesOf?_append {content : Bytes} (complete : Complete content) (more : Bytes) :
    entriesOf? (content ++ 0x0a :: more) =
      (entriesOf? content).bind fun entries => (entriesOf? more).map entries.update := by
  rw [entriesOf?, Utf8.decode?_append_ascii (by decide), entriesOf?, entriesOf?]
  cases first : Utf8.decode? content with
  | none => rfl
  | some text =>
    cases Utf8.decode? more with
    | none => rfl
    | some rest => exact congrArg some (parse_append (complete text first) rest)

/-- The same without the line feed between them, if the first one ends in one. -/
theorem entriesOf?_append_ended {content : Bytes} (complete : Complete content)
    (ended : content.getLast? = some 0x0a) (more : Bytes) :
    entriesOf? (content ++ more) =
      (entriesOf? content).bind fun entries => (entriesOf? more).map entries.update := by
  obtain ⟨front, rfl⟩ := List.getLast?_eq_some_iff.mp ended
  have whole : Utf8.decode? (front ++ [0x0a]) = (Utf8.decode? front).map (· ++ ['\n']) := by
    rw [Utf8.decode?_append_ascii (by decide)]
    cases Utf8.decode? front with
    | none => rfl
    | some text => rfl
  rw [List.append_assoc, List.singleton_append, entriesOf?, Utf8.decode?_append_ascii (by decide),
    entriesOf?, whole, entriesOf?]
  cases first : Utf8.decode? front with
  | none => rfl
  | some text =>
    have read : Utf8.decode? (front ++ [0x0a]) = some (text ++ ['\n']) := by
      rw [whole, first]
      rfl
    cases Utf8.decode? more with
    | none => rfl
    | some rest => exact congrArg some (parse_append_ended (complete _ read) rest)

/-- Files in one have the entries of the first of them, and over these the entries of the others. -/
theorem entriesOf?_concatenated {content : Bytes} (complete : Complete content)
    (contents : List Bytes) : entriesOf? (concatenated (content :: contents)) =
      (entriesOf? content).bind fun entries =>
        (entriesOf? (concatenated contents)).map entries.update := by
  cases contents with
  | nil =>
    have alone : concatenated [content] = content := List.intercalate_singleton
    have nothing : entriesOf? (concatenated []) = some ∅ := rfl
    rw [alone, nothing]
    cases entriesOf? content with
    | none => rfl
    | some entries => rfl
  | cons next contents =>
    have cut : concatenated (content :: next :: contents) =
        content ++ 0x0a :: concatenated (next :: contents) := by simp [concatenated]
    rw [cut, entriesOf?_append complete]

/-- Between files that end in line feeds no other ones are needed. -/
theorem entriesOf?_flatten {contents : List Bytes} (complete : ∀ c ∈ contents, Complete c)
    (ended : ∀ c ∈ contents, c = [] ∨ c.getLast? = some 0x0a) :
    entriesOf? contents.flatten = entriesOf? (concatenated contents) := by
  induction contents with
  | nil => rfl
  | cons content contents ih =>
    obtain ⟨here, others⟩ := List.forall_mem_cons.mp complete
    obtain ⟨hereEnded, othersEnded⟩ := List.forall_mem_cons.mp ended
    rw [List.flatten_cons, entriesOf?_concatenated here, ← ih others othersEnded]
    rcases hereEnded with rfl | hereEnded
    · have nothing : entriesOf? [] = some ∅ := rfl
      rw [List.nil_append, nothing, Option.bind_some]
      cases read : entriesOf? contents.flatten with
      | none => rfl
      | some entries => exact congrArg some (OrderedMap.empty_update (nodup_entriesOf? read)).symm
    · exact entriesOf?_append_ended here hereEnded contents.flatten

/-- Of the files that have a key the last one counts. -/
theorem get?_concatenated {contents : List Bytes} (complete : ∀ c ∈ contents, Complete c)
    {entries : Entries} (read : entriesOf? (concatenated contents) = some entries)
    (key : String) : entries.get? key =
      contents.reverse.findSome? fun content => (entriesOf? content).bind (·.get? key) := by
  induction contents generalizing entries with
  | nil =>
    cases read
    rfl
  | cons content contents ih =>
    obtain ⟨here, others⟩ := List.forall_mem_cons.mp complete
    rw [entriesOf?_concatenated here] at read
    obtain ⟨first, isFirst, read⟩ := Option.bind_eq_some_iff.mp read
    obtain ⟨more, isMore, rfl⟩ := Option.map_eq_some_iff.mp read
    rw [OrderedMap.get?_update (nodup_entriesOf? isMore), ih others isMore, List.reverse_cons,
      List.findSome?_append]
    simp [isFirst]

/-- A file that can be read is there. -/
theorem doesExist_of_read {files : Files} {path : String} {content : Bytes}
    (read : files.read path = .ok content) : files.doesExist path = true := by
  unfold Files.read at read
  unfold Files.doesExist
  split at read
  · cases read
  · next isPath =>
    rw [Bool.not_eq_true, Bool.not_eq_false'] at isPath
    rw [isPath, Bool.true_and]
    split at read
    · next reached => rw [reached]
    all_goals cases read

/-- What loading a file comes to. -/
theorem load_of_read {files : Files} {path : String} {content : Bytes}
    (read : files.read path = .ok content) (p : Properties) : p.load files path =
      (entriesOf? content).elim (.error .notUtf8) fun entries => .ok (p.merge entries) := by
  rw [load, if_pos (doesExist_of_read read), read, entriesOf?]
  dsimp only
  cases Utf8.decode? content with
  | none => rfl
  | some text =>
    dsimp only [Option.map, Option.elim]
    rw [parse_unifyBreaks]

theorem merge_merge {first : Entries} (once : first.keys.Nodup) (more : Entries) (p : Properties) :
    (p.merge first).merge more = p.merge (first.update more) := by
  have distinct : (first.mapValues Value.text).keys.Nodup := by
    rw [OrderedMap.keys_mapValues]
    exact once
  rw [merge, merge, merge, OrderedMap.update_assoc distinct, OrderedMap.mapValues_update]

theorem foldlM_load {files : Files} {paths : List String} {contents : List Bytes}
    (read : List.Forall₂ (fun path content => files.read path = .ok content) paths contents)
    (complete : ∀ content ∈ contents, Complete content) (p : Properties) :
    paths.foldlM (fun p path => p.load files path) p =
      (entriesOf? (concatenated contents)).elim (.error .notUtf8) fun entries =>
        .ok (p.merge entries) := by
  induction read generalizing p with
  | nil => rfl
  | @cons path content paths contents here _ ih =>
    obtain ⟨first, others⟩ := List.forall_mem_cons.mp complete
    rw [List.foldlM_cons, load_of_read here, entriesOf?_concatenated first]
    cases isFirst : entriesOf? content with
    | none => rfl
    | some entries =>
      have later := ih others (p.merge entries)
      cases rest : entriesOf? (concatenated contents) with
      | none =>
        rw [rest] at later
        exact later
      | some more =>
        rw [rest] at later
        exact later.trans (congrArg Except.ok (merge_merge (nodup_entriesOf? isFirst) more p))

/-- A text behind one at whose end no entry goes on has its entries written over those of the first
one, whatever the ends of the two are. So files that are read in turn leave what their contents
leave in one, with line feeds between them, written over the defaults; where the files end in line
feeds themselves none are needed between them. The last file that has a key counts. -/
theorem parse_composes :
    (∀ first more : List Char, (readAll first).pending = [] →
      parse (first ++ '\n' :: more) = (parse first).update (parse more)) ∧
    ∀ (files : Files) (paths : List String) (contents : List Bytes)
      (defaults : OrderedMap String Value),
      List.Forall₂ (fun path content => files.read path = .ok content) paths contents →
      (∀ content ∈ contents, Complete content) →
      (ofFiles files paths defaults =
        match entriesOf? (concatenated contents) with
        | none => .error .notUtf8
        | some entries => .ok ⟨defaults.update (entries.mapValues .text)⟩) ∧
      ((∀ content ∈ contents, content = [] ∨ content.getLast? = some 0x0a) →
        entriesOf? contents.flatten = entriesOf? (concatenated contents)) ∧
      ∀ entries, entriesOf? (concatenated contents) = some entries → ∀ key,
        entries.get? key =
          contents.reverse.findSome? fun content => (entriesOf? content).bind (·.get? key) := by
  constructor
  · intro first more complete
    exact parse_append complete more
  · intro files paths contents defaults read complete
    refine ⟨?_, entriesOf?_flatten complete, ?_⟩
    · rw [ofFiles, foldlM_load read complete]
      cases entriesOf? (concatenated contents) with
      | none => rfl
      | some entries => rfl
    · intro entries isRead key
      exact get?_concatenated complete isRead key

/-- A file that ends in two backslashes and a carriage return, an empty one, and one with another
line break; files that end in line feeds; and two texts with a carriage return and a line feed
between them. -/
theorem parse_composes_seams :
    let paths := ["a", "b", "c"]
    let contents := ["x=1\ny=a\\\\\r", "", "z\u2028x=3"].map Utf8.ofString
    let files : Files := { files := [["a"], ["b"], ["c"]].zip contents }
    let defaults : OrderedMap String Value := ⟨[("y", .text "0"), ("w", .text "9")]⟩
    let ended := ["x=1\n", "", "y=2\n"].map Utf8.ofString
    let endedFiles : Files := { files := [["a"], ["b"], ["c"]].zip ended }
    List.Forall₂ (fun path content => files.read path = .ok content) paths contents ∧
      (∀ content ∈ contents, Complete content) ∧
      ofFiles files paths defaults =
        .ok ⟨⟨[("y", .text "a\\\\"), ("w", .text "9"), ("x", .text "3"), ("z", .text "")]⟩⟩ ∧
      List.Forall₂ (fun path content => endedFiles.read path = .ok content) paths ended ∧
      (∀ content ∈ ended, Complete content) ∧
      (∀ content ∈ ended, content = [] ∨ content.getLast? = some 0x0a) ∧
      entriesOf? ended.flatten = entriesOf? (concatenated ended) ∧
      (readAll "k=v\r".toList).pending = [] ∧
      parse "k=v\r\nk: w".toList = (parse "k=v\r".toList).update (parse "k: w".toList) := by
  intro paths contents files defaults ended endedFiles
  have complete : ∀ content ∈ contents, Complete content := by decide +kernel
  have endedComplete : ∀ content ∈ ended, Complete content := by decide +kernel
  have feeds : ∀ content ∈ ended, content = [] ∨ content.getLast? = some 0x0a := by decide +kernel
  have ends : (readAll "k=v\r".toList).pending = [] := by decide +kernel
  have read : List.Forall₂ (fun path content => files.read path = .ok content) paths contents :=
    .cons (by rfl) (.cons (by rfl) (.cons (by rfl) .nil))
  have endedRead : List.Forall₂ (fun path content => endedFiles.read path = .ok content) paths
      ended := .cons (by rfl) (.cons (by rfl) (.cons (by rfl) .nil))
  obtain ⟨texts, composed⟩ := parse_composes
  have whole : entriesOf? (concatenated contents) =
      some ⟨[("x", "3"), ("y", "a\\\\"), ("z", "")]⟩ := by decide +kernel
  have flat := (composed endedFiles _ ended defaults endedRead endedComplete).2.1 feeds
  refine ⟨read, complete, ?_, endedRead, endedComplete, feeds, flat, ends, texts _ _ ends⟩
  rw [(composed files _ contents defaults read complete).1, whole]
  rfl

end WideColumn.Properties
