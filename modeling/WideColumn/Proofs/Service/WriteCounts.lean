import Mathlib.Algebra.BigOperators.Finprod
import WideColumn.Proofs.Metrics
import WideColumn.Proofs.Service.Connection
import WideColumn.Proofs.Service.Cursor
import WideColumn.Proofs.Service.TableWrites

/-! The counts of puts. Tables are put in attempts, one after the other up to the first one that
fails. What the metrics and a service count of puts are the attempts that have been made, and what
those have written that have returned. Each attempt that finds its table asks it for one put, and
nothing else that is done through a client asks for puts or changes the counts. -/
namespace WideColumn

open WideColumn.Action (Keeps)

/-- How an attempt to put ends: its table is not found, or it is asked to put and fails, or the put
returns. -/
inductive Attempt.Ending
  | notFound
  | failed
  | returned
  deriving DecidableEq, Repr

/-- An attempt to put the mutations of one table over a connection, and how it has ended. -/
structure Attempt where
  connection : Nat
  table : String
  mutations : List Mutation
  ending : Attempt.Ending
  deriving DecidableEq, Repr

namespace Attempt

def returned (a : Attempt) : Bool := a.ending = .returned

/-- The put that the table is asked for, if it is found. -/
def put? (a : Attempt) : Option Store.PutCall :=
  if a.ending = .notFound then none else some (a.connection, a.table, a.mutations)

def rows (a : Attempt) : Nat := a.mutations.length

def cells (a : Attempt) : Nat := (a.mutations.flatMap (·.cells)).length

/-- The attempts at a table that have returned, or those that have not. -/
def endedAt (table : String) (returned : Bool) (tried : List Attempt) : List Attempt :=
  tried.filter fun a => a.table = table ∧ a.returned = returned

/-- How many attempts have returned. -/
def returns (tried : List Attempt) : Nat := tried.countP (·.returned)

/-- What a series of puts counts, after some attempts. -/
def counted (tried : List Attempt) : Series → Nat
  | .puts table success => (endedAt table success tried).length
  | .putDuration table => (endedAt table true tried).length + (endedAt table false tried).length
  | .rowsWritten table => ((endedAt table true tried).map rows).sum
  | .cellsWritten table => ((endedAt table true tried).map cells).sum
  | .scans .. | .scanDuration _ | .rowsRead _ | .cellsRead _ | .published .. | .received ..
  | .errors .. => 0

theorem endedAt_append (table : String) (returned : Bool) (tried more : List Attempt) :
    endedAt table returned (tried ++ more) =
      endedAt table returned tried ++ endedAt table returned more := List.filter_append _ _

theorem returns_append (tried more : List Attempt) :
    returns (tried ++ more) = returns tried + returns more := List.countP_append

theorem counted_nil (s : Series) : counted [] s = 0 := by
  cases s <;> rfl

theorem counted_append (tried more : List Attempt) (s : Series) :
    counted (tried ++ more) s = counted tried s + counted more s := by
  cases s <;> simp only [counted, endedAt_append, List.length_append, List.map_append,
    List.sum_append, Nat.add_zero]
  -- The attempts that have been timed are those that have returned and those that have failed.
  omega

/-- What is counted of one attempt. -/
theorem counted_singleton (a : Attempt) (s : Series) : counted [a] s =
    match s with
    | .puts table success => if a.table = table ∧ a.returned = success then 1 else 0
    | .putDuration table => if a.table = table then 1 else 0
    | .rowsWritten table => if a.table = table ∧ a.returned = true then a.rows else 0
    | .cellsWritten table => if a.table = table ∧ a.returned = true then a.cells else 0
    | .scans .. | .scanDuration _ | .rowsRead _ | .cellsRead _ | .published .. | .received ..
    | .errors .. => 0 := by
  cases s with
  | puts table success =>
    by_cases ends : a.table = table ∧ a.returned = success <;> simp [counted, endedAt, ends]
  | putDuration table =>
    by_cases same : a.table = table <;> cases returned : a.returned <;>
      simp [counted, endedAt, same, returned]
  | rowsWritten table | cellsWritten table =>
    by_cases ends : a.table = table ∧ a.returned = true <;> simp [counted, endedAt, ends]
  | _ => rfl

/-- The puts that a table is asked for return or fail; where it is not found it is not asked. -/
theorem length_puts (tried : List Attempt) (table : String) :
    ((tried.filterMap put?).filter fun put => put.2.1 = table).length =
      (endedAt table true tried).length +
        ((endedAt table false tried).filter fun a => a.ending = .failed).length := by
  induction tried with
  | nil => rfl
  | cons a rest ih =>
    obtain ⟨connection, name, mutations, ending⟩ := a
    by_cases same : name = table <;> cases ending <;>
      simp [endedAt, put?, returned, same] at ih ⊢ <;> omega

theorem returns_eq_sum {tried : List Attempt} {tables : Finset String}
    (all : ∀ a ∈ tried, a.table ∈ tables) :
    returns tried = ∑ table ∈ tables, (endedAt table true tried).length := by
  induction tried with
  | nil => exact Finset.sum_const_zero.symm
  | cons a rest ih =>
    obtain ⟨inTables, others⟩ := List.forall_mem_cons.mp all
    have one (table : String) : (endedAt table true (a :: rest)).length =
        (endedAt table true rest).length + if a.table = table then a.returned.toNat else 0 := by
      by_cases same : a.table = table <;> cases ends : a.returned <;> simp [endedAt, same, ends]
    simp only [one]
    rw [Finset.sum_add_distrib, Finset.sum_ite_eq, if_pos inTables, ← ih others, returns,
      List.countP_cons]
    cases a.returned <;> rfl

/-- Each attempt that has returned is one at one table. -/
theorem returns_eq_finsum (tried : List Attempt) :
    returns tried = ∑ᶠ table, (endedAt table true tried).length := by
  let tables := (tried.map (·.table)).toFinset
  have all : ∀ a ∈ tried, a.table ∈ tables := fun a member =>
    List.mem_toFinset.mpr (List.mem_map_of_mem member)
  have support : Function.support (fun table => (endedAt table true tried).length) ⊆ tables := by
    intro table some
    obtain ⟨a, ends⟩ := List.exists_mem_of_length_pos (Nat.pos_of_ne_zero some)
    obtain ⟨member, isEnd⟩ := List.mem_filter.mp ends
    rw [← (of_decide_eq_true isEnd).1]
    exact all a member
  rw [finsum_eq_sum_of_support_subset _ support]
  exact returns_eq_sum all

end Attempt

open Attempt (counted endedAt)

/-! What the metrics tell of attempts. -/

namespace Metrics

variable {m m' m'' : Metrics} {tried more : List Attempt}

/-- What metrics are after attempts, which they count. -/
structure Counts (tried : List Attempt) (m m' : Metrics) : Prop where
  counts : ∀ s : Series, s.isOfWrites → m'.count s = m.count s + counted tried s
  batches : ∀ table, m'.batches table =
    m.batches table ++ (endedAt table true tried).map Attempt.rows

theorem Counts.of_writes (same : m'.writes = m.writes) : Counts [] m m' where
  counts s ofWrites := by
    rw [Attempt.counted_nil, Nat.add_zero]
    exact count_eq_of_writes same ofWrites
  batches table := by
    have batchRows : m'.batchRows = m.batchRows := congrArg Prod.snd same
    rw [Metrics.batches, Metrics.batches, batchRows]
    exact (List.append_nil _).symm

theorem Counts.trans (first : Counts tried m m') (second : Counts more m' m'') :
    Counts (tried ++ more) m m'' where
  counts s ofWrites := by
    rw [second.counts s ofWrites, first.counts s ofWrites, Attempt.counted_append, Nat.add_assoc]
  batches table := by
    rw [second.batches, first.batches, Attempt.endedAt_append, List.map_append,
      List.append_assoc]

/-- The metrics of a table that has been written count an attempt that has returned. -/
theorem counts_written {a : Attempt} (returned : a.returned = true) (m : Metrics) :
    Counts [a] m (Client.writtenMetrics a.table a.mutations m) where
  counts s ofWrites := by
    simp only [Client.writtenMetrics, count_observeBatch, count_add_eq, Attempt.counted_singleton]
    cases s with
    | puts | putDuration => simp [returned]
    | rowsWritten => simp [Attempt.rows, returned]
    | cellsWritten => simp [Attempt.cells, returned]
    | _ => cases ofWrites
  batches t := by
    rw [Client.writtenMetrics, batches_observeBatch]
    refine congrArg _ ?_
    by_cases same : a.table = t <;> simp [endedAt, same, returned, Attempt.rows]

/-- The metrics of a table that could not be written count an attempt that has failed. -/
theorem counts_missed {a : Attempt} (missed : a.returned = false) (e : Fault) (m : Metrics) :
    Counts [a] m (Client.missedMetrics a.table e m) where
  counts s ofWrites := by
    have timed : (Client.missedMetrics a.table e m).count s =
        m.count s + (if .putDuration a.table = s then 1 else 0) +
          if .puts a.table false = s then 1 else 0 := by
      have notError : Series.errors e.kind "put" ≠ s := by
        rintro rfl
        cases ofWrites
      cases service : e.isService with
      | true => simp only [Client.missedMetrics, service, if_true, count_add_eq]
      | false => simp [Client.missedMetrics, service, count_add_eq, notError]
    rw [timed, Attempt.counted_singleton]
    cases s with
    | puts | putDuration | rowsWritten | cellsWritten => simp [missed]
    | _ => cases ofWrites
  batches t := by
    have kept : (Client.missedMetrics a.table e m).batches t = m.batches t := by
      cases service : e.isService with
      | true => simp only [Client.missedMetrics, service]; rfl
      | false => simp only [Client.missedMetrics, service]; rfl
    rw [kept]
    simp [endedAt, missed]

end Metrics

namespace Client

open Store (Event)

variable {c c' c'' : Client} {tried more : List Attempt}

/-- What a client is after attempts: its metrics count them all, and its service those that have
returned; the tables that they have found are those that have been asked to put. -/
structure Counts (tried : List Attempt) (c c' : Client) : Prop where
  metrics : c.metrics.Counts tried c'.metrics
  service : c'.service.putCount = c.service.putCount + Attempt.returns tried
  puts : c'.store.puts = c.store.puts ++ tried.filterMap Attempt.put?

theorem counts_isTrace : Action.IsTrace Counts where
  refl c := ⟨.of_writes rfl, rfl, (List.append_nil _).symm⟩
  trans first second :=
    { metrics := first.metrics.trans second.metrics
      service := by rw [second.service, first.service, Attempt.returns_append, Nat.add_assoc]
      puts := by rw [second.puts, first.puts, List.filterMap_append, List.append_assoc] }

/-- The attempt at a table, which ends as finding and writing it do. -/
def attempt (connection : Connection) (table : String) (mutations : List Mutation) (c : Client) :
    Attempt where
  connection := connection.number
  table
  mutations
  ending :=
    match (lookUp connection table c).1, (writeTable connection table mutations c).1 with
    | .error _, _ => .notFound
    | .ok (), .error _ => .failed
    | .ok (), .ok () => .returned

/-- The attempts that are made when tables are put. -/
def attempts (connection : Connection) : List (String × List Mutation) → Client → List Attempt
  | [], _ => []
  | (table, mutations) :: rest, c =>
    if (attempt connection table mutations c).returned then
      attempt connection table mutations c ::
        attempts connection rest (putTable connection table mutations c).2
    else [attempt connection table mutations c]

/-- The attempts that are made when requests are put: none, if they are refused as a whole. -/
def putAttempts (default : String) (requests : List PutRequest) (c : Client) : List Attempt :=
  match c.service.connection, Mutation.batchByTable (some default) requests with
  | some connection, .ok tables => attempts connection tables.entries c
  | some _, .error _ | none, _ => []

variable (connection : Connection)

section

variable (table : String) (mutations : List Mutation) (c : Client)

theorem attempt_returned : (attempt connection table mutations c).returned =
    (writeTable connection table mutations c).1.toBool := by
  unfold Attempt.returned attempt
  rcases found : lookUp connection table c with ⟨e | ⟨⟩, c'⟩
  · have failed : writeTable connection table mutations c = (.error e, c') :=
      Action.bind_of_error found
    rw [failed]
    rfl
  · cases (writeTable connection table mutations c).1 <;> rfl

/-- A table is asked to put once it has been found, and for nothing but that. -/
theorem writeTable_puts : (writeTable connection table mutations c).2.store.puts =
    c.store.puts ++ [attempt connection table mutations c].filterMap Attempt.put? := by
  have spared := congrArg Prod.snd (lookUp_beside connection table c)
  rcases found : lookUp connection table c with ⟨e | ⟨⟩, c'⟩
  · have failed : writeTable connection table mutations c = (.error e, c') :=
      Action.bind_of_error found
    rw [found] at spared
    simp only [attempt, found, failed, Attempt.put?, if_true, List.filterMap_cons,
      List.filterMap_nil, List.append_nil]
    exact spared
  · have asked : (attempt connection table mutations c).ending ≠ .notFound := by
      simp only [attempt, found]
      cases (writeTable connection table mutations c).1 <;> simp
    have put : (attempt connection table mutations c).put? =
        some (connection.number, table, mutations) := if_neg asked
    have goesOn : writeTable connection table mutations c = _ := Action.bind_of_ok found
    rw [found] at spared
    have sent {send : Action Client Unit} (kept : Keeps beside send) :
        ((note (.put connection.number table mutations) >>= fun _ => send) c').2.store.puts =
          c.store.puts ++ [(connection.number, table, mutations)] := by
      refine (congrArg Prod.snd (kept _)).trans ((Store.puts_note c'.store _).trans ?_)
      exact congrArg (· ++ _) spared
    rw [goesOn, List.filterMap_cons_some put]
    cases connection.backend with
    | direct => exact sent (.bind (log_beside _) fun _ => pass_beside _)
    | gateway => exact sent (sendRuns_beside table _)

theorem putTable_counts : Counts [attempt connection table mutations c] c
    (putTable connection table mutations c).2 := by
  have kept := writeTable_beside connection table mutations c
  have puts := writeTable_puts connection table mutations c
  have returned := attempt_returned connection table mutations c
  rcases ran : writeTable connection table mutations c with ⟨e | ⟨⟩, c'⟩
  · rw [ran] at kept puts returned
    rw [putTable_failed connection table mutations ran]
    obtain ⟨service, metrics⟩ := Prod.mk.inj kept
    refine ⟨?_, ?_, puts⟩
    · rw [← metrics]
      exact Metrics.counts_missed returned e c'.metrics
    · rw [Attempt.returns, List.countP_singleton, returned]
      exact congrArg Service.putCount service
  · rw [ran] at kept puts returned
    rw [putTable_written connection table mutations ran]
    obtain ⟨service, metrics⟩ := Prod.mk.inj kept
    refine ⟨?_, ?_, puts⟩
    · rw [← metrics]
      exact Metrics.counts_written returned c'.metrics
    · rw [Attempt.returns, List.countP_singleton, returned]
      exact congrArg (·.putCount + 1) service

end

theorem putTables_counts (tables : List (String × List Mutation)) (c : Client) :
    Counts (attempts connection tables c) c (putTables connection tables c).2 := by
  induction tables generalizing c with
  | nil => exact counts_isTrace.refl c
  | cons t rest ih =>
    obtain ⟨table, mutations⟩ := t
    have counts := putTable_counts connection table mutations c
    have returned := attempt_returned connection table mutations c
    rw [attempts]
    rcases ran : writeTable connection table mutations c with ⟨e | ⟨⟩, c'⟩
    · rw [ran] at returned
      have stopped : putTables connection ((table, mutations) :: rest) c = _ :=
        Action.bind_of_error (putTable_failed connection table mutations ran)
      rw [putTable_failed connection table mutations ran] at counts
      rw [stopped, if_neg (by rw [returned]; exact Bool.false_ne_true)]
      exact counts
    · rw [ran] at returned
      have goesOn : putTables connection ((table, mutations) :: rest) c = _ :=
        Action.bind_of_ok (putTable_written connection table mutations ran)
      rw [putTable_written connection table mutations ran] at counts ⊢
      rw [goesOn, if_pos (by rw [returned]; rfl)]
      exact counts_isTrace.trans counts (ih _)

/-- A put counts its attempts. -/
theorem put_counts (default : String) (requests : List PutRequest) (c : Client) :
    Counts (putAttempts default requests c) c (put default requests c).2 := by
  rw [put, requireConnection_bind, putAttempts]
  cases c.service.connection with
  | none => exact counts_isTrace.refl c
  | some connection =>
    dsimp only
    cases Mutation.batchByTable (some default) requests with
    | error row => exact counts_isTrace.refl c
    | ok tables => exact putTables_counts connection tables.entries c

/-! What is done other than putting. -/

/-- What is counted of puts, and the puts that have been asked for. -/
def writes (c : Client) :
    (((Series → Nat) × OrderedMap String (List Nat)) × Nat) × List Store.PutCall :=
  ((c.metrics.writes, c.service.putCount), c.store.puts)

theorem count_writes {s : Series} (other : s.isOfWrites = false) (n : Nat) :
    Keeps writes (count s n) :=
  .modify fun c =>
    congrArg (fun m => ((m, c.service.putCount), c.store.puts)) (c.metrics.writes_add other n)

/-- What only touches the store writes nothing that is counted. -/
theorem writes_of_beside {α : Type} {a : Action Client α} (h : Keeps beside a) : Keeps writes a :=
  fun c => congrArg (fun b : (Service × Metrics) × List Store.PutCall =>
    ((b.1.2.writes, b.1.1.putCount), b.2)) (h c)

theorem publish_writes (connection : Connection) : Keeps writes (publish connection) := by
  refine .bind .get fun c => ?_
  split
  · exact writes_of_beside (closeConnection_beside connection)
  · exact .bind (.modify fun _ => rfl) fun _ => .modify fun _ => rfl

theorem enableWith_writes (files : Files) {meanwhile : Action Client Unit}
    (h : Keeps writes meanwhile) : Keeps writes (enableWith files meanwhile) := by
  have connects : Keeps writes (connect files meanwhile) :=
    .bind (writes_of_beside (openConnection_beside files)) fun _ => .bind h fun _ =>
      .bind (writes_of_beside (note_beside rfl)) fun _ => .pure _
  refine .bind .get fun c => ?_
  split
  · exact .pure ()
  · rcases c.service.validate with e | invalid | ⟨⟩
    · exact .fail _
    · exact .fail _
    · refine .bind (.attempt connects) fun connected => ?_
      cases connected with
      | ok connection => exact publish_writes connection
      | error e =>
        dsimp only
        split
        · exact .fail e
        · exact .bind (count_writes rfl 1) fun _ => .fail _

theorem enable_writes (files : Files) : Keeps writes (enable files) :=
  enableWith_writes files (.pure ())

theorem enableRacing_writes (files : Files) : Keeps writes (enableRacing files) :=
  enableWith_writes files (enable_writes files)

theorem shutdown_writes : Keeps writes shutdown := by
  refine .bind .get fun c => ?_
  cases c.service.connection with
  | none => exact .pure ()
  | some connection =>
    refine .bind (.modify fun _ => rfl) fun _ => ?_
    have closing := writes_of_beside (closeConnection_beside connection)
    refine .bind (.attempt closing) fun closed => ?_
    refine .bind (.modify fun _ => rfl) fun _ => ?_
    cases closed with
    | ok => exact .pure ()
    | error e => exact .fail _

theorem delete_writes (table : String) (row : Option Bytes) : Keeps writes (delete table row) := by
  refine .bind (.of_reads requireConnection_reads) fun connection => ?_
  refine .bind (.attempt (writes_of_beside ?_)) fun deleted => ?_
  · refine .bind (lookUp_beside connection table) fun _ => ?_
    exact .bind (note_beside rfl) fun _ => .bind (log_beside _) fun _ => pass_beside _
  · cases deleted with
    | ok => exact .pure ()
    | error e => exact .bind (count_writes rfl 1) fun _ => .fail _

theorem tableName_writes (table : String) : Keeps writes (tableName table) :=
  .bind (.of_reads requireConnection_reads) fun connection =>
    .bind (writes_of_beside (lookUp_beside connection table)) fun _ => .pure _

theorem advance_writes (s : Scanner) (request : ScanRequest) (rows : Nat) :
    Keeps writes (advance s request rows) := by
  unfold advance
  split
  · exact .bind (writes_of_beside (closeScanner_beside s)) fun _ => .pure _
  · refine .bind (.attempt (writes_of_beside (readRow_beside s))) fun read => ?_
    match read with
    | .ok (none, s) => exact .bind (writes_of_beside (closeScanner_beside s)) fun _ => .pure _
    | .ok (some row, s) =>
      exact .bind (count_writes rfl 1) fun _ => .bind (count_writes rfl _) fun _ => .pure _
    | .error e => exact .bind (writes_of_beside (closeScanner_beside _)) fun _ => .fail _

theorem next_writes (cursor : Cursor) : Keeps writes (next cursor) := by
  cases cursor with
  | finished => exact .pure _
  | reading s request rows => exact advance_writes s request rows
  | waiting connection request =>
    have opening := writes_of_beside (openScanner_beside connection request)
    refine .bind (.attempt opening) fun opened => ?_
    cases opened with
    | ok s => exact advance_writes s request 0
    | error e => exact .fail _

theorem closeCursor_writes (cursor : Cursor) : Keeps writes (closeCursor cursor) :=
  writes_of_beside (closeCursor_beside cursor)

theorem handleRows_writes (handler : RowHandler) (fuel : Nat) (handled : List ScannedRow)
    (cursor : Cursor) : Keeps writes (handleRows handler fuel handled cursor) := by
  induction fuel generalizing handled cursor with
  | zero => exact .pure _
  | succ fuel ih =>
    refine .bind (.attempt (next_writes cursor)) fun stepped => ?_
    match stepped with
    | .error e => exact .pure _
    | .ok (none, cursor) => exact .pure _
    | .ok (some row, cursor) =>
      dsimp only
      cases handler handled.length row with
      | ok events => exact .bind (writes_of_beside (logAll_beside events)) fun _ => ih _ _
      | error e =>
        refine .bind (writes_of_beside (meet_beside _)) fun _ => ?_
        exact .bind (count_writes rfl 1) fun _ => .pure _

theorem scan_writes (request : ScanRequest) (expression : Option String) (handler : RowHandler) :
    Keeps writes (scan request expression handler) := by
  refine .bind (.of_reads (openCursor_reads request expression)) fun cursor => ?_
  refine .bind .get fun c => .bind (handleRows_writes handler _ [] cursor) fun ended => ?_
  refine .bind (count_writes rfl 1) fun _ => .bind (closeCursor_writes _) fun _ => ?_
  refine .bind (count_writes rfl 1) fun _ => ?_
  cases ended.1 with
  | ok rows => exact .bind (.modify fun _ => rfl) fun _ => .pure _
  | error e => exact .fail e

end Client
end WideColumn
