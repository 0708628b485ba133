import Mathlib.Data.List.Nodup
import WideColumn.Proofs.Stream.Delivery

/-! Updates of rows that a feed has delivered. A poll delivers rows whole, with a field for each of
their cells, and remembers them by the newest timestamp: a cell that is written later is delivered
with its row, unless the row has been delivered with the timestamp that its newest cell has. -/
namespace WideColumn

theorem Value.eq_of_sameKey_text {key : Value} {name : String} (same : key.sameKey (.text name)) :
    key = .text name := by
  cases key with
  | text other => exact congrArg Value.text (of_decide_eq_true same)
  | double x =>
    cases number : x.whole? with
    | none => simp [sameKey, number] at same
    | some n => simp [sameKey, integral?, number] at same
  | _ => simp [sameKey, integral?] at same

namespace Record

variable {key value : Value} {record : Record}

theorem mem_names_writeEntry {name : Value} (member : name ∈ record.map Prod.fst) :
    name ∈ (Value.writeEntry key value record).map Prod.fst := by
  induction record with
  | nil => cases member
  | cons entry rest ih =>
    obtain ⟨k, v⟩ := entry
    unfold Value.writeEntry
    split
    · exact member
    · rcases List.mem_cons.mp member with same | later
      · exact same ▸ .head _
      · exact .tail _ (ih later)

theorem text_mem_names_writeEntry (name : String) :
    .text name ∈ (Value.writeEntry (.text name) value record).map Prod.fst := by
  induction record with
  | nil => exact .head _
  | cons entry rest ih =>
    obtain ⟨k, v⟩ := entry
    unfold Value.writeEntry
    split
    · next same =>
      rw [Value.eq_of_sameKey_text same]
      exact .head _
    · exact .tail _ ih

/-- Adding cells keeps the fields that are there and makes one for the column of each cell. -/
theorem mem_names_addCells {cells : List Cell} :
    (∀ name ∈ record.map Prod.fst, name ∈ (addCells record cells).map Prod.fst) ∧
      ∀ cell ∈ cells, .text (fieldName cell) ∈ (addCells record cells).map Prod.fst := by
  induction cells generalizing record with
  | nil => exact ⟨fun _ member => member, List.forall_mem_nil _⟩
  | cons cell rest ih =>
    obtain ⟨kept, named⟩ := @ih (Value.writeEntry (.text (fieldName cell))
      (.text (Utf8.toStringLossy cell.value.bytes)) record)
    refine ⟨fun name member => kept name (mem_names_writeEntry member), ?_⟩
    exact List.forall_mem_cons.mpr ⟨kept _ (text_mem_names_writeEntry _), named⟩

/-- The record of a row has a field for the column of each of its cells. -/
theorem text_mem_names_ofRow {field : Value} {row : Option Bytes} {cells : List Cell}
    (made : ofRow field row cells = .ok record) {cell : Cell} (member : cell ∈ cells) :
    .text (fieldName cell) ∈ record.map Prod.fst := by
  cases row with
  | none => cases made
  | some row =>
    obtain ⟨name, -, same⟩ := bind_eq_ok_iff.mp made
    cases same
    exact mem_names_writeEntry (mem_names_addCells.2 cell member)

end Record
namespace Stream

/-- Whether two cells say the same about one column. -/
def SameCell (a b : Cell) : Prop :=
  a.family.bytes = b.family.bytes ∧ a.qualifier.bytes = b.qualifier.bytes ∧
    a.value.bytes = b.value.bytes ∧ a.timestamp = b.timestamp

instance (a b : Cell) : Decidable (SameCell a b) := inferInstanceAs (Decidable (_ ∧ _))

namespace TableFeed

/-- A feed that has started as `first` and been polled, where the rows of each scan have keys of
their own; with the rows that it has delivered, each behind the timestamp of its newest cell. -/
inductive History (first : TableFeed) : List (Int × ScannedRow) → TableFeed → Prop
  | start : History first [] first
  | failed {handed : List (Int × ScannedRow)} {f f' : TableFeed} {hub hub' : Hub} {e : Fault}
      (before : History first handed f) (polled : poll (f, hub) = (.error e, (f', hub'))) :
      History first handed f'
  | polled {handed : List (Int × ScannedRow)} {f f' : TableFeed} {hub hub₁ hub' : Hub} {n : Nat}
      {rows : List ScannedRow} (before : History first handed f)
      (scanned : f.scan hub = (.ok rows, hub₁)) (distinct : (rows.map ScannedRow.key).Nodup)
      (polled : poll (f, hub) = (.ok n, (f', hub'))) :
      History first
        (handed ++ dueRows first.progress.minTimestamp (deliveries handed) rows) f'
  | taken {handed : List (Int × ScannedRow)} {f : TableFeed} {record : Record}
      {pending : List Record} (before : History first handed f)
      (waiting : f.pending = record :: pending) : History first handed { f with pending }

variable {first f f' : TableFeed} {handed : List (Int × ScannedRow)}

theorem History.run (history : History first handed f) : Run first (deliveries handed) f := by
  induction history with
  | start => exact .start
  | failed before polled ih => exact .failed ih polled
  | polled before scanned distinct polled ih =>
    rw [deliveries, List.map_append]
    exact Run.polled ih scanned distinct polled
  | taken before waiting ih => exact .taken ih waiting

theorem History.poll {rows : List ScannedRow} {n : Nat} {hub : Hub}
    (before : History first handed f)
    (scanned : (f.scan hub).1.toOption = some rows) (distinct : (rows.map ScannedRow.key).Nodup)
    (polled : (TableFeed.poll (f, hub)).1.toOption = some n) :
    History first (handed ++ dueRows first.progress.minTimestamp (deliveries handed) rows)
      (TableFeed.poll (f, hub)).2.1 :=
  .polled before (eq_of_toOption scanned) distinct (eq_of_toOption polled)

/-- That no update is lost: a poll that scans a row with a cell that is not older than what has been
reached, and that no record of the row has had before, adds a record of the row with the column of
the cell. -/
def LosesNoUpdate (first : TableFeed) : Prop :=
  ∀ handed f rows n hub hub₁ f' hub', History first handed f → f.scan hub = (.ok rows, hub₁) →
    (rows.map ScannedRow.key).Nodup → TableFeed.poll (f, hub) = (.ok n, (f', hub')) →
    ∀ row ∈ rows, ∀ cell ∈ row.cells, f.progress.minTimestamp ≤ cell.timestamp →
      (∀ given ∈ handed, given.2.key = row.key → ∀ had ∈ given.2.cells, ¬ SameCell had cell) →
      ∃ record ∈ f'.pending.drop f.pending.length,
        Record.ofRow f.rowKeyField row.key row.cells = .ok record ∧
          .text (Record.fieldName cell) ∈ record.map Prod.fst

/-- A cell that is written to a row after the row has been delivered, with the timestamp at which it
was delivered, is lost. -/
theorem loses_level_update :
    let feed : TableFeed := { subscriber := "s", table := "t", supplier := .shared 0 }
    ¬ LosesNoUpdate feed := by
  intro feed losesNone
  let service : Service :=
    { name := "s", settings := ∅, backend := .direct, connection := some ⟨1, .direct⟩ }
  let early : StoredCell := ⟨some [0x66], some [0x71], some [0x76], 7⟩
  let late : StoredCell := ⟨some [0x66], some [0x70], some [0x77], 7⟩
  let hub : Hub := { store := { rows := [⟨some [0x72], [early]⟩] }, services := [service] }
  let hub' : Hub := { hub with store := { rows := [⟨some [0x72], [early, late]⟩] } }
  let f := (TableFeed.poll (feed, hub)).2.1
  let first : ScannedRow := ⟨some [0x72], [.ofBytes [0x72] [0x66] [0x71] [0x76] 7]⟩
  let added : Cell := .ofBytes [0x72] [0x66] [0x70] [0x77] 7
  let second : ScannedRow := ⟨some [0x72], first.cells ++ [added]⟩
  have found : (feed.scan hub).1.toOption = some [first] := by decide +kernel
  have counted : (TableFeed.poll (feed, hub)).1.toOption = some 1 := by decide +kernel
  have history : History feed [(7, first)] f := .poll .start found (by decide) counted
  have read : (f.scan hub').1.toOption = some [second] := by decide +kernel
  have ended : (TableFeed.poll (f, hub')).1.toOption = some 0 := by decide +kernel
  have nothing : (TableFeed.poll (f, hub')).2.1.pending.length = f.pending.length := by
    decide +kernel
  have young : f.progress.minTimestamp ≤ added.timestamp := by decide +kernel
  have unheard : ∀ given ∈ [((7, first) : Int × ScannedRow)], given.2.key = second.key →
      ∀ had ∈ given.2.cells, ¬ SameCell had added := by decide
  clear_value f
  have scanned := eq_of_toOption read
  rcases polled : TableFeed.poll (f, hub') with ⟨outcome, f', hub₂⟩
  rw [polled] at ended nothing
  cases toOption_eq_some ended
  obtain ⟨record, member, -⟩ := losesNone _ f _ 0 hub' _ f' _ history scanned
    (List.nodup_singleton _) polled second (List.mem_singleton_self _) added
    (List.mem_append_right _ (List.mem_singleton_self _)) young unheard
  rw [List.drop_of_length_le (Nat.le_of_eq nothing)] at member
  cases member

/-- Whether a row is passed over: its newest cell is as old as what has been reached, and the row
has been delivered with that timestamp. -/
def Passed (handed : List (Int × ScannedRow)) (f : TableFeed) (row : ScannedRow) : Prop :=
  ScannedRow.newest? row.cells = some f.progress.minTimestamp ∧
    ∃ given ∈ handed, given.2.key = row.key ∧ given.1 = f.progress.minTimestamp

theorem passed_iff {row : ScannedRow} : Passed handed f row ↔
    ScannedRow.newest? row.cells = some f.progress.minTimestamp ∧
      (row.key, f.progress.minTimestamp) ∈ deliveries handed := by
  refine and_congr_right fun _ => ?_
  simp only [deliveries, List.mem_map, Prod.mk.injEq]

/-- A row with a young cell is due unless it is passed over. -/
theorem dueRow?_of_young {start : Int} (follows : f.progress.Follows start (deliveries handed))
    {row : ScannedRow} {cell : Cell} (inRow : cell ∈ row.cells)
    (young : f.progress.minTimestamp ≤ cell.timestamp) (unpassed : ¬ Passed handed f row) :
    ∃ newest, dueRow? start (deliveries handed) row = some (newest, row) := by
  obtain ⟨newest, found⟩ : ∃ newest, ScannedRow.newest? row.cells = some newest := by
    cases cells : row.cells with
    | nil =>
      rw [cells] at inRow
      cases inRow
    | cons first rest => exact ⟨_, rfl⟩
  have above : f.progress.minTimestamp ≤ newest :=
    Int.le_trans young ((newest?_eq_some_iff.mp found).2 cell inRow)
  refine ⟨newest, dueRow?_eq_some_iff.mpr ⟨rfl, found, ?_⟩⟩
  unfold IsDue
  rw [← follows.timestamp]
  rcases Int.lt_or_eq_of_le above with younger | rfl
  · exact .inl younger
  · exact .inr ⟨rfl, fun given => unpassed (passed_iff.mpr ⟨found, given⟩)⟩

/-- A poll that scans a row with a cell that is not older than what has been reached delivers the
record of the row, with a field for the column of the cell; unless the row is passed over, and then
nothing is delivered for it. -/
theorem delivers_updates (fresh : first.progress.seen = []) (history : History first handed f)
    {rows : List ScannedRow} {n : Nat} {hub hub₁ hub' : Hub}
    (scanned : f.scan hub = (.ok rows, hub₁)) (distinct : (rows.map ScannedRow.key).Nodup)
    (polled : poll (f, hub) = (.ok n, (f', hub'))) {row : ScannedRow} (inScan : row ∈ rows)
    {cell : Cell} (inRow : cell ∈ row.cells)
    (young : f.progress.minTimestamp ≤ cell.timestamp) :
    ∃ (due : List (Int × ScannedRow)) (records : List Record),
      f'.pending = f.pending ++ records ∧
      List.Forall₂ (fun found record =>
        Record.ofRow f.rowKeyField found.2.key found.2.cells = .ok record) due records ∧
      (¬ Passed handed f row → ∃ record ∈ records,
        Record.ofRow f.rowKeyField row.key row.cells = .ok record ∧
          .text (Record.fieldName cell) ∈ record.map Prod.fst) ∧
      (Passed handed f row → ∀ found ∈ due, found.2.key ≠ row.key) := by
  have follows := history.run.follows fresh
  rcases poll_outcome f hub with
    ⟨e, hub₂, same⟩ | ⟨rows', records, hub₂, hub₃, scanned', written, same⟩
  · cases polled.symm.trans same
  cases scanned.symm.trans scanned'
  cases polled.symm.trans same
  rw [follows.newRows] at written
  have made := forall₂_of_mapM written
  refine ⟨_, records, rfl, made, ?_, ?_⟩
  · intro unpassed
    obtain ⟨newest, isDue⟩ := dueRow?_of_young follows inRow young unpassed
    have member := List.mem_filterMap.mpr ⟨row, inScan, isDue⟩
    obtain ⟨record, isRecord, ofRow⟩ := exists_of_forall₂ made member
    exact ⟨record, isRecord, ofRow, Record.text_mem_names_ofRow ofRow inRow⟩
  · intro passed found isDue same
    obtain ⟨other, inScan', found'⟩ := List.mem_filterMap.mp isDue
    obtain ⟨rfl, newest, due⟩ := dueRow?_eq_some_iff.mp found'
    obtain rfl := List.inj_on_of_nodup_map distinct inScan' inScan same
    obtain ⟨level, given⟩ := passed_iff.mp passed
    have isReached : found.1 = f.progress.minTimestamp := Option.some.inj (newest.symm.trans level)
    rw [isReached, follows.timestamp] at due
    rw [follows.timestamp] at given
    rcases due with younger | ⟨-, unseen⟩
    · exact Int.lt_irrefl _ younger
    · exact unseen given

/-- Two polls, between which a younger cell is written to a row: the second one delivers the row
again, with the column of that cell. -/
theorem delivers_updates_second_poll :
    let service : Service :=
      { name := "s", settings := ∅, backend := .direct, connection := some ⟨1, .direct⟩ }
    let early : StoredCell := ⟨some [0x66], some [0x71], some [0x76], 7⟩
    let late : StoredCell := ⟨some [0x66], some [0x70], some [0x77], 8⟩
    let hub : Hub := { store := { rows := [⟨some [0x72], [early]⟩] }, services := [service] }
    let hub' : Hub := { hub with store := { rows := [⟨some [0x72], [early, late]⟩] } }
    let feed : TableFeed := { subscriber := "s", table := "t", supplier := .shared 0 }
    let f := (poll (feed, hub)).2.1
    ∃ f' hub₂ records, poll (f, hub') = (.ok 1, (f', hub₂)) ∧
      f'.pending = f.pending ++ records ∧ ∃ record ∈ records,
        .text (Record.fieldName (.ofBytes [0x72] [0x66] [0x70] [0x77] 8)) ∈
          record.map Prod.fst := by
  intro service early late hub hub' feed f
  let first : ScannedRow := ⟨some [0x72], [.ofBytes [0x72] [0x66] [0x71] [0x76] 7]⟩
  let second : ScannedRow :=
    ⟨some [0x72], first.cells ++ [.ofBytes [0x72] [0x66] [0x70] [0x77] 8]⟩
  have found : (feed.scan hub).1.toOption = some [first] := by decide +kernel
  have counted : (poll (feed, hub)).1.toOption = some 1 := by decide +kernel
  have history : History feed [(7, first)] f := .poll .start found (by decide) counted
  have read : (f.scan hub').1.toOption = some [second] := by decide +kernel
  have ended : (poll (f, hub')).1.toOption = some 1 := by decide +kernel
  have young : f.progress.minTimestamp ≤ 8 := by decide +kernel
  have younger : ScannedRow.newest? second.cells ≠ some f.progress.minTimestamp := by decide +kernel
  clear_value f
  have scanned := eq_of_toOption read
  rcases polled : poll (f, hub') with ⟨outcome, f', hub₂⟩
  rw [polled] at ended
  cases toOption_eq_some ended
  obtain ⟨due, records, pending, -, delivered, -⟩ :=
    delivers_updates rfl history scanned (List.nodup_singleton _) polled
      (List.mem_singleton_self second) (List.mem_append_right _ (List.mem_singleton_self _)) young
  obtain ⟨record, member, -, named⟩ := delivered fun passed => younger passed.1
  exact ⟨f', hub₂, records, rfl, pending, record, member, named⟩

end TableFeed
end Stream
end WideColumn
