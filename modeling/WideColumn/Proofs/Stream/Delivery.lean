import WideColumn.Proofs.Except
import WideColumn.Proofs.Stream.Progress
import WideColumn.Stream.TableFeed

/-! Delivery by a feed that is polled again and again, over a table that may change between polls.
Every row is delivered once with each timestamp at which it is due, in the order of the scan that
finds it; a poll that fails leaves the feed as it was. -/
namespace WideColumn.Stream.TableFeed

/-- The scan of a poll. -/
def scan (f : TableFeed) : Action Hub (List ScannedRow) :=
  f.supplier.work "scan" (Client.scan f.request f.filter fun _ _ => .ok [])

/-- What a poll can do: fail and leave the feed alone, or receive the new rows of a whole scan. -/
theorem poll_outcome (f : TableFeed) (hub : Hub) :
    (∃ e hub', poll (f, hub) = (.error e, (f, hub'))) ∨
      ∃ rows records hub₁ hub', f.scan hub = (.ok rows, hub₁) ∧
        f.recordsOf (f.progress.newRows rows) = .ok records ∧
        poll (f, hub) = (.ok (f.progress.newRows rows).length,
          (f.receive (f.progress.newRows rows) records, hub')) := by
  have read : (Action.get : Action (TableFeed × Hub) _) (f, hub) = (.ok (f, hub), (f, hub)) := rfl
  rcases scanned : f.scan hub with ⟨outcome, hub₁⟩
  have scanning : onHub f.scan (f, hub) = (outcome, (f, hub₁)) := by
    simp only [onHub, Action.onPart, scanned]
  unfold scan at scanning
  unfold poll
  rw [Action.bind_of_ok read]
  dsimp only
  cases outcome with
  | error e =>
    rw [Action.bind_of_error scanning]
    exact .inl ⟨e, hub₁, rfl⟩
  | ok rows =>
    rw [Action.bind_of_ok scanning]
    cases written : f.recordsOf (f.progress.newRows rows) with
    | error e => exact .inl ⟨.mismatch e, hub₁, rfl⟩
    | ok records =>
      refine .inr ⟨rows, records, hub₁, ?_⟩
      cases none : (f.progress.newRows rows).isEmpty with
      | true => exact ⟨_, rfl, written, rfl⟩
      | false => exact ⟨_, rfl, written, rfl⟩

/-- A feed that has started as `first` and been polled, where the rows of each scan have keys of
their own; with what it has delivered. Records may be taken from it between polls. -/
inductive Run (first : TableFeed) : List Delivery → TableFeed → Prop
  | start : Run first [] first
  | failed {delivered : List Delivery} {f f' : TableFeed} {hub hub' : Hub} {e : Fault}
      (before : Run first delivered f) (polled : poll (f, hub) = (.error e, (f', hub'))) :
      Run first delivered f'
  | polled {delivered : List Delivery} {f f' : TableFeed} {hub hub₁ hub' : Hub} {n : Nat}
      {rows : List ScannedRow} (before : Run first delivered f)
      (scanned : f.scan hub = (.ok rows, hub₁)) (distinct : (rows.map ScannedRow.key).Nodup)
      (polled : poll (f, hub) = (.ok n, (f', hub'))) :
      Run first (delivered ++ deliveries (dueRows first.progress.minTimestamp delivered rows)) f'
  | taken {delivered : List Delivery} {f : TableFeed} {record : Record} {pending : List Record}
      (before : Run first delivered f) (waiting : f.pending = record :: pending) :
      Run first delivered { f with pending }

namespace Run

variable {first f : TableFeed} {delivered : List Delivery}

/-- The progress of a feed that starts without any says what has been delivered. -/
theorem follows (fresh : first.progress.seen = []) (run : Run first delivered f) :
    f.progress.Follows first.progress.minTimestamp delivered := by
  induction run with
  | start =>
    have start := Progress.follows_start first.progress.minTimestamp
    rwa [← fresh] at start
  | @failed delivered f f' hub hub' e before polled ih =>
    rcases poll_outcome f hub with ⟨e', hub₂, same⟩ | ⟨rows, records, hub₁, hub₂, -, -, same⟩
    · cases polled.symm.trans same
      exact ih
    · cases polled.symm.trans same
  | @polled delivered f f' hub hub₁ hub' n rows before scanned distinct polled ih =>
    rcases poll_outcome f hub with ⟨e, hub₂, same⟩ | ⟨rows', records, hub₂, hub₃, scanned', -, same⟩
    · cases polled.symm.trans same
    · cases scanned.symm.trans scanned'
      cases polled.symm.trans same
      rw [← ih.newRows]
      exact ih.noteAll _
  | taken before waiting ih => exact ih

theorem nodup (run : Run first delivered f) : delivered.Nodup := by
  induction run with
  | start => exact List.nodup_nil
  | failed before polled ih => exact ih
  | polled before scanned distinct polled ih => exact nodup_deliveries ih distinct
  | taken before waiting ih => exact ih

end Run

/-- Exactly once: however a feed has been polled, its progress is the newest timestamp it has
reached and the rows delivered at it, and no delivery has been made twice. The next poll changes
nothing if it fails; else it appends the records of exactly the rows that are due, in the order of
the scan, and they are what the feed has delivered since. -/
theorem delivered_once {first f : TableFeed} {delivered : List Delivery}
    (fresh : first.progress.seen = []) (run : Run first delivered f) :
    f.progress.minTimestamp = reached first.progress.minTimestamp delivered ∧
      (∀ key, key ∈ f.progress.seen ↔
        (key, reached first.progress.minTimestamp delivered) ∈ delivered) ∧
      delivered.Nodup ∧
      ∀ hub, (∃ e hub', poll (f, hub) = (.error e, (f, hub'))) ∨
        ∃ rows due records f' hub₁ hub', f.scan hub = (.ok rows, hub₁) ∧
          due = dueRows first.progress.minTimestamp delivered rows ∧
          List.Forall₂ (fun row record =>
            Record.ofRow f.rowKeyField row.2.key row.2.cells = .ok record) due records ∧
          poll (f, hub) = (.ok due.length, (f', hub')) ∧ f'.pending = f.pending ++ records ∧
          ((rows.map ScannedRow.key).Nodup → Run first (delivered ++ deliveries due) f') := by
  have follows := run.follows fresh
  refine ⟨follows.timestamp, follows.seen, run.nodup, fun hub => ?_⟩
  refine (poll_outcome f hub).imp id ?_
  rintro ⟨rows, records, hub₁, hub', scanned, written, polled⟩
  rw [follows.newRows] at written polled
  exact ⟨rows, _, records, _, hub₁, hub', scanned, rfl, forall₂_of_mapM written, polled, rfl,
    fun distinct => .polled run scanned distinct polled⟩

/-- A feed over one row with a cell at 7 delivers it in its first poll. -/
theorem delivered_once_first_poll :
    let cell : StoredCell := ⟨some [0x66], some [0x71], some [0x76], 7⟩
    let service : Service :=
      { name := "s", settings := ∅, backend := .direct, connection := some ⟨1, .direct⟩ }
    let hub : Hub := { store := { rows := [⟨some [0x72], [cell]⟩] }, services := [service] }
    let feed : TableFeed := { subscriber := "s", table := "t", supplier := .shared 0 }
    ∃ f hub', poll (feed, hub) = (.ok 1, (f, hub')) ∧ Run feed [(some [0x72], 7)] f ∧
      f.progress.minTimestamp = 7 := by
  intro cell service hub feed
  have counted : (poll (feed, hub)).1.toOption = some 1 := by decide +kernel
  have scanned : (feed.scan hub).1.toOption =
      some [⟨some [0x72], [.ofBytes [0x72] [0x66] [0x71] [0x76] 7]⟩] := by decide +kernel
  obtain ⟨-, -, -, next⟩ := delivered_once rfl (Run.start : Run feed [] feed)
  rcases next hub with
    ⟨e, hub', failed⟩ | ⟨rows, _, records, f, hub₁, hub', read, rfl, -, polled, -, goOn⟩
  · rw [failed] at counted
    cases counted
  · rw [read] at scanned
    cases toOption_eq_some scanned
    have run : Run feed [(some [0x72], 7)] f := goOn (by decide)
    exact ⟨f, hub', polled, run, (delivered_once rfl run).1⟩

end WideColumn.Stream.TableFeed
