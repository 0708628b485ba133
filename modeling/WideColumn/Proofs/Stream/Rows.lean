import Mathlib.Data.List.Perm.Subperm
import WideColumn.Proofs.Record.RowKeys
import WideColumn.Proofs.Service.Operations
import WideColumn.Proofs.Stream.Buffering

/-! The rows that a publisher puts. A row is made from the row key of a record, and a record is put
once at most, whatever is done with the publisher and whatever the store makes of it. -/
namespace WideColumn

open Store (Call)

/-- The rows that a call puts. -/
def Store.Call.rows : Call → List (Option Bytes)
  | put _ _ mutations => mutations.map (·.row)
  | _ => []

namespace Mutation

/-- A batch has no other rows than its requests. -/
theorem mem_rows_of_mem_batch {requests : List PutRequest} {row : Option Bytes}
    (inBatch : row ∈ (batch requests).map (·.row)) : row ∈ requests.map (·.row) := by
  have rows : (batch requests).map (·.row) =
      (grouped PutRequest.row PutRequest.cells requests).keys := by
    rw [batch, List.map_map]
    rfl
  rw [rows] at inBatch
  exact (mem_keys_grouped _ _).mp inBatch

theorem mem_rows_of_mem_tablePuts {default : Option String} {requests : List PutRequest}
    {t : String × List Mutation} (member : t ∈ tablePuts default requests) {row : Option Bytes}
    (inPut : row ∈ t.2.map (·.row)) : row ∈ requests.map (·.row) := by
  obtain ⟨table, -, rfl⟩ := List.mem_map.mp member
  exact List.map_subset _ (List.filter_subset_self _) (mem_rows_of_mem_batch inPut)

end Mutation

/-- The rows of a put are rows of its requests. -/
theorem Client.put_rows (table : String) (requests : List PutRequest) :
    MakesOnly (fun call => ∀ row ∈ call.rows, row ∈ requests.map (·.row))
      (Client.put table requests) := by
  refine .bind ((Silent.of_reads requireConnection_reads).makesOnly _) fun connection => ?_
  by_cases missing : ∃ r ∈ requests, r.tableOr (some table) = none
  · obtain ⟨r, -, -, refused⟩ := Mutation.requestsByTable_error missing
    rw [Mutation.batchByTable, refused]
    exact .fail _
  · have named : ∀ r ∈ requests, (r.tableOr (some table)).isSome := fun r member =>
      Option.isSome_iff_ne_none.mpr fun none => missing ⟨r, member, none⟩
    rw [Mutation.batchByTable_eq named]
    exact putTables_makesOnly connection fun t member =>
      ⟨List.forall_mem_nil _, fun _ => Mutation.mem_rows_of_mem_tablePuts member⟩

namespace Hub

/-- From one hub to a later one there are only calls of a kind. -/
def CallsOnly (kind : Call → Prop) (hub hub' : Hub) : Prop :=
  ∃ made, hub'.store.calls = hub.store.calls ++ made ∧ ∀ m ∈ made, kind m.call

namespace CallsOnly

variable {kind wider : Call → Prop} {hub hub' hub'' : Hub}

theorem refl (hub : Hub) : CallsOnly kind hub hub :=
  ⟨[], (List.append_nil _).symm, List.forall_mem_nil _⟩

theorem trans (first : CallsOnly kind hub hub') (second : CallsOnly kind hub' hub'') :
    CallsOnly kind hub hub'' := by
  obtain ⟨made, noted, areKind⟩ := first
  obtain ⟨more, noted', areKind'⟩ := second
  exact ⟨made ++ more, by rw [noted', noted, List.append_assoc],
    List.forall_mem_append.mpr ⟨areKind, areKind'⟩⟩

theorem mono (h : CallsOnly kind hub hub') (widens : ∀ call, kind call → wider call) :
    CallsOnly wider hub hub' := by
  obtain ⟨made, noted, areKind⟩ := h
  exact ⟨made, noted, fun m member => widens m.call (areKind m member)⟩

theorem callsSince (h : CallsOnly kind hub hub') : ∀ call ∈ hub.callsSince hub', kind call := by
  obtain ⟨made, noted, areKind⟩ := h
  rw [Hub.callsSince, noted, List.drop_left]
  exact List.forall_mem_map.mpr areKind

end CallsOnly

theorem onService_callsOnly {α : Type} {kind : Call → Prop} {a : Action Client α}
    (only : MakesOnly kind a) (id : ServiceId) (hub : Hub) :
    CallsOnly kind hub (onService id a hub).2 := by
  cases known : hub.services[id]? with
  | none =>
    rw [onService, known]
    exact .refl hub
  | some service =>
    obtain ⟨calls, after, areKind⟩ := only ⟨service, hub.store, hub.metrics⟩
    rw [onService_of_known known]
    exact ⟨_, after.noted, List.forall_mem_map.mpr areKind⟩

end Hub

namespace Stream

theorem Supplier.work_callsOnly {α : Type} {kind : Store.Call → Prop} {a : Action Client α}
    (only : MakesOnly kind a) (s : Supplier) (operation : String) (hub : Hub) :
    hub.CallsOnly kind (s.work operation a hub).2 := by
  cases s with
  | shared service => exact Hub.onService_callsOnly only service hub
  | owned service => exact Hub.onService_callsOnly only service hub
  | unfit typeName => exact .refl hub

namespace TableSink

/-- The row that a record is put into: what becomes of its row key. -/
def HasRow (t : TableSink) (data : Value) (row : Option Bytes) : Prop :=
  ∃ key, Record.Keyed t.layout data key ∧ row = some (key.encodeRowKey t.layout.rowKeyEncoding)

/-- A call that puts no other rows than those of given records. -/
def PutsRowsOf (t : TableSink) (records : List Value) (call : Store.Call) : Prop :=
  ∀ row ∈ call.rows, ∃ data ∈ records, t.HasRow data row

variable {t : TableSink} {records more batch : List Value} {data : Value} {hub : Hub}

theorem PutsRowsOf.mono {call : Store.Call} (h : t.PutsRowsOf records call)
    (within : records ⊆ more) : t.PutsRowsOf more call := by
  intro row member
  obtain ⟨data, isRecord, has⟩ := h row member
  exact ⟨data, within isRecord, has⟩

theorem hasRow_of_request {r : PutRequest} (made : t.request data = .ok (some r)) :
    t.HasRow data r.row :=
  Record.keyed_of_requestOf (mapError_eq_ok_iff.mp made)

/-- Requests are all put and counted, or nothing is counted. -/
theorem put_keyed (requests : List PutRequest) (hub : Hub) :
    ((t.put requests hub).1 = .ok requests.length ∨ ∃ e, (t.put requests hub).1 = .error e) ∧
      hub.CallsOnly (fun call => ∀ row ∈ call.rows, row ∈ requests.map (·.row))
        (t.put requests hub).2 := by
  have worked := t.supplier.work_callsOnly (Client.put_rows t.table requests) "put" hub
  rcases ran : t.supplier.work "put" (Client.put t.table requests) hub with ⟨e | ⟨⟩, hub'⟩
  · rw [ran] at worked
    rw [put, Action.bind_of_error ran]
    exact ⟨.inr ⟨e, rfl⟩, worked⟩
  · rw [ran] at worked
    rw [put, Action.bind_of_ok ran]
    exact ⟨.inl rfl, worked⟩

theorem filterMap_requests {requests : List (Option PutRequest)}
    (converted : batch.mapM t.request = .ok requests) :
    requests.filterMap id = t.requestsOf batch := by
  have all : ∀ data ∈ batch, ∃ r, t.request data = .ok r := by
    intro data member
    obtain ⟨r, -, made⟩ := exists_of_forall₂ (forall₂_of_mapM converted) member
    exact ⟨r, made⟩
  rw [← batchRequests_of_ok all, batchRequests, converted]

/-- Of a batch, some records with a row key count, and all rows are rows of its records. -/
theorem writeBatch_keyed (t : TableSink) (batch : List Value) (hub : Hub) : ∃ written : List Value,
    written.Sublist batch ∧ (∀ data ∈ written, ∃ row, t.HasRow data row) ∧
      (t.writeBatch batch hub).1.toOption.getD 0 = written.length ∧
      hub.CallsOnly (t.PutsRowsOf batch) (t.writeBatch batch hub).2 := by
  have nothing : ([] : List Value).Sublist batch ∧ ∀ data ∈ [], ∃ row, t.HasRow data row :=
    ⟨List.nil_sublist batch, List.forall_mem_nil _⟩
  cases converted : batch.mapM t.request with
  | error e =>
    rw [writeBatch, converted]
    exact ⟨[], nothing.1, nothing.2, rfl, .refl hub⟩
  | ok requests =>
    have made : ∀ data ∈ batch, ∀ r, t.request? data = some r → t.HasRow data r.row := by
      intro data member r isRequest
      obtain ⟨outcome, -, converts⟩ := exists_of_forall₂ (forall₂_of_mapM converted) member
      rw [request_eq converts] at isRequest
      exact hasRow_of_request (isRequest ▸ converts)
    rw [writeBatch_eq converted, filterMap_requests converted]
    cases found : t.requestsOf batch with
    | nil => exact ⟨[], nothing.1, nothing.2, rfl, .refl hub⟩
    | cons first rest =>
      obtain ⟨counts, called⟩ := t.put_keyed (first :: rest) hub
      have rows : hub.CallsOnly (t.PutsRowsOf batch) (t.put (first :: rest) hub).2 := by
        refine called.mono fun call areRows row member => ?_
        obtain ⟨r, isRequest, rfl⟩ := List.mem_map.mp (areRows row member)
        rw [← found] at isRequest
        obtain ⟨data, inBatch, requested⟩ := List.mem_filterMap.mp isRequest
        exact ⟨data, inBatch, made data inBatch r requested⟩
      rcases counts with counted | ⟨e, failed⟩
      · refine ⟨batch.filter fun data => (t.request? data).isSome, List.filter_sublist, ?_, ?_,
          rows⟩
        · intro data member
          obtain ⟨inBatch, isSome⟩ := List.mem_filter.mp member
          obtain ⟨r, requested⟩ := Option.isSome_iff_exists.mp isSome
          exact ⟨r.row, made data inBatch r requested⟩
        · rw [← List.countP_eq_length_filter, ← List.length_filterMap_eq_countP]
          dsimp only
          rw [counted, ← found]
          rfl
      · refine ⟨[], nothing.1, nothing.2, ?_, rows⟩
        dsimp only
        rw [failed]
        rfl

/-- What has become of a publisher and its hub after records have been published: all rows that have
been put are rows of records that waited or have been published since; some of these records count,
and none both counts and still waits. -/
structure Took (t : TableSink) (records : List Value) (s s' : Publisher × Hub) : Prop where
  calls : s.2.CallsOnly (t.PutsRowsOf (s.1.buffer ++ records)) s'.2
  counted : ∃ written, (written ++ s'.1.buffer).Subperm (s.1.buffer ++ records) ∧
    (∀ data ∈ written, ∃ row, t.HasRow data row) ∧ s'.1.count = s.1.count + written.length

namespace Took

variable {s s' s'' : Publisher × Hub} {p : Publisher}

theorem unchanged (s : Publisher × Hub) : Took t records s s :=
  ⟨.refl s.2, [], (List.sublist_append_left s.1.buffer records).subperm, List.forall_mem_nil _, rfl⟩

theorem trans (first : Took t records s s') (second : Took t more s' s'') :
    Took t (records ++ more) s s'' := by
  obtain ⟨written, within, keyed, count⟩ := first.counted
  obtain ⟨later, within', keyed', count'⟩ := second.counted
  have all : (written ++ (s'.1.buffer ++ more)).Subperm (s.1.buffer ++ (records ++ more)) := by
    rw [← List.append_assoc, ← List.append_assoc]
    exact within.append (.refl more)
  refine ⟨?_, written ++ later, ?_, List.forall_mem_append.mpr ⟨keyed, keyed'⟩, ?_⟩
  · have known : s.1.buffer ++ records ⊆ s.1.buffer ++ (records ++ more) := by
      rw [← List.append_assoc]
      exact List.subset_append_left _ _
    have waiting : s'.1.buffer ++ more ⊆ s.1.buffer ++ (records ++ more) :=
      fun _ member => all.subset (List.mem_append_right _ member)
    exact (first.calls.mono fun _ rows => rows.mono known).trans
      (second.calls.mono fun _ rows => rows.mono waiting)
  · rw [List.append_assoc]
    exact ((List.Subperm.refl written).append within').trans all
  · rw [count', count, List.length_append, Nat.add_assoc]

theorem flush (t : TableSink) (s : Publisher × Hub) :
    Took t [] s (Publisher.flush t.sink s).2 := by
  obtain ⟨p, hub⟩ := s
  obtain ⟨written, within, keyed, counts, called⟩ := t.writeBatch_keyed p.buffer hub
  rw [Publisher.flush_eq]
  refine ⟨?_, written, ?_, keyed, congrArg (p.count + ·) counts⟩
  · rw [List.append_nil]
    exact called
  · change (written ++ []).Subperm (p.buffer ++ [])
    rw [List.append_nil, List.append_nil]
    exact within.subperm

theorem collect (p : Publisher) (data : Value) (hub : Hub) :
    Took t [data] (p, hub) (p.collecting data, hub) :=
  ⟨.refl hub, [], .refl _, List.forall_mem_nil _, rfl⟩

theorem write (t : TableSink) (p : Publisher) (data : Value) (hub : Hub) :
    Took t [data] (p, hub) (Publisher.counted (t.write data) (p, hub)).2 := by
  obtain ⟨written, within, keyed, counts, called⟩ := t.writeBatch_keyed [data] hub
  rw [Publisher.counted_state, write_eq_writeBatch]
  refine ⟨called.mono fun _ rows => rows.mono (List.subset_append_right _ _), written, ?_, keyed,
    congrArg (p.count + ·) counts⟩
  exact List.perm_append_comm.subperm.trans ((List.Subperm.refl p.buffer).append within.subperm)

theorem enqueue (t : TableSink) (p : Publisher) (data : Value) (hub : Hub) :
    Took t [data] (p, hub) (Publisher.enqueue t.sink data (p, hub)).2 := by
  cases known : Queue.bound p.maxDepth with
  | error e =>
    have failed : (Publisher.enqueue t.sink data (p, hub)).2 = (p, hub) := by
      unfold Publisher.enqueue
      rw [Action.get_bind]
      dsimp only
      rw [known]
      rfl
    rw [failed]
    exact .unchanged _
  | ok bound =>
    rw [Publisher.enqueue_of_bound known]
    cases Queue.push? bound p.buffer data with
    | none => exact .unchanged _
    | some buffer =>
      dsimp only
      cases Queue.reaches p.batchSize (p.buffer ++ [data]) with
      | error e => exact .collect p data hub
      | ok due =>
        cases due with
        | false => exact .collect p data hub
        | true => exact (collect p data hub).trans (.flush t _)

theorem publish (t : TableSink) (data : Value) (s : Publisher × Hub) :
    Took t [data] s (Publisher.publish t.sink data s).2 := by
  obtain ⟨p, hub⟩ := s
  unfold Publisher.publish
  rw [Action.get_bind]
  dsimp only
  split
  · exact .enqueue t p data hub
  · rw [TableSink.sink, Action.state_bind fun _ => .pure _]
    exact .write t p data hub

theorem tick (t : TableSink) (s : Publisher × Hub) : Took t [] s (Publisher.tick t.sink s).2 := by
  obtain ⟨p, hub⟩ := s
  unfold Publisher.tick
  rw [Action.get_bind]
  dsimp only
  split
  · exact .unchanged _
  · rw [Action.state_bind fun _ => .pure _]
    exact .flush t (p, hub)

/-- A move takes its record, if it has one. -/
theorem make (t : TableSink) (move : Move) (s : Publisher × Hub) :
    Took t move.record?.toList s (move.make t.sink s).2 := by
  cases move with
  | stop =>
    rw [Publisher.make_stop]
    have stopped : Took t [] s ({ s.1 with isStopped := true }, s.2) :=
      ⟨.refl s.2, [], (List.append_nil _).symm ▸ .refl _, List.forall_mem_nil _, rfl⟩
    exact stopped.trans (.flush t _)
  | perform operation =>
    cases operation with
    | publish data =>
      rw [Move.make, Publisher.perform_state]
      exact .publish t data s
    | flush =>
      rw [Move.make, Publisher.perform_flush]
      exact .flush t s
    | tick =>
      rw [Move.make, Operation.perform, Action.state_bind fun _ => .pure _]
      exact .tick t s

/-- After a move that waits for ever, the records of the later ones are left. -/
theorem makeAll (t : TableSink) (moves : List Move) (s : Publisher × Hub) :
    Took t (Move.records moves) s (Move.makeAll t.sink moves s).2 := by
  induction moves generalizing s with
  | nil => exact .unchanged s
  | cons move rest ih =>
    have first := make t move s
    rw [Move.records_cons, Move.makeAll]
    rcases ran : move.make t.sink s with ⟨e | ⟨⟨⟩⟩ | _, s'⟩
    · rw [ran] at first
      rw [Action.bind_of_error ran]
      exact first.trans (.unchanged s')
    · rw [ran] at first
      rw [Action.bind_of_ok ran]
      exact first.trans (ih s')
    · rw [ran] at first
      rw [Action.bind_of_ok ran]
      exact first.trans (.unchanged s')

end Took

/-- Every row that is put is what becomes of the row key of a record that waited or has been
published since. It is empty where that key is the empty byte string, and nowhere else. A record
without a row key is neither put nor counted, and none counts twice. -/
theorem puts_keyed_rows (t : TableSink) (p : Publisher) (hub : Hub) (moves : List Move) :
    let after := (Move.makeAll t.sink moves (p, hub)).2
    let records := p.buffer ++ Move.records moves
    (∀ call ∈ hub.callsSince after.2, ∀ row ∈ call.rows, ∃ data ∈ records, ∃ key,
      Record.Keyed t.layout data key ∧
        row = some (key.encodeRowKey t.layout.rowKeyEncoding) ∧
        (row = some [] ↔ key = .bytes [])) ∧
    ∃ written, List.Subperm written records ∧
      (∀ data ∈ written, ∃ key, Record.Keyed t.layout data key) ∧
      after.1.count = p.count + written.length := by
  intro after records
  have took : Took t (Move.records moves) (p, hub) after := .makeAll t moves (p, hub)
  constructor
  · intro call called row put
    obtain ⟨data, isRecord, key, keyed, rfl⟩ := took.calls.callsSince call called row put
    refine ⟨data, isRecord, key, keyed, rfl, ?_⟩
    rw [Option.some.injEq]
    exact Value.encodeRowKey_eq_nil_iff keyed.notEmpty _
  · obtain ⟨written, within, hasRow, count⟩ := took.counted
    have some : written.Subperm records := (List.sublist_append_left ..).subperm.trans within
    refine ⟨written, some, fun data member => ?_, count⟩
    obtain ⟨row, key, keyed, -⟩ := hasRow data member
    exact ⟨key, keyed⟩

/-- Records whose row keys are missing, null, the empty text, a number and the empty byte string:
the last two are put and count. -/
theorem puts_keyed_rows_empty_bytes :
    let hub : Hub :=
      { services := [{ name := "s", settings := ∅, backend := .direct,
                       connection := some ⟨1, .direct⟩ }] }
    let t : TableSink := { publisher := "p", table := "t", layout := {}, supplier := .shared 0 }
    let p : Publisher :=
      { name := .text "p", destination := .null, interval := .whole 60, buffer := [.dict []] }
    let keys : List Value := [.null, .text "", .whole 7, .bytes []]
    let moves := keys.map fun key =>
      Move.perform (.publish (.dict [(.text Record.defaultRowKeyField, key)]))
    let after := (Move.makeAll t.sink (moves ++ [.stop]) (p, hub)).2
    hub.callsSince after.2 =
        [.lookedUp 1 "t", .put 1 "t" [⟨some (Utf8.ofString "7"), []⟩, ⟨some [], []⟩]] ∧
      after.1.count = 2 ∧
      (∃ data ∈ p.buffer ++ Move.records (moves ++ [.stop]), ∃ key,
        Record.Keyed t.layout data key ∧ key = .bytes []) ∧
      ∃ written, List.Subperm written (p.buffer ++ Move.records (moves ++ [.stop])) ∧
        (∀ data ∈ written, ∃ key, Record.Keyed t.layout data key) ∧ written.length = 2 := by
  intro hub t p keys moves after
  have calls : hub.callsSince after.2 =
      [.lookedUp 1 "t", .put 1 "t" [⟨some (Utf8.ofString "7"), []⟩, ⟨some [], []⟩]] := by
    decide +kernel
  have count : after.1.count = 2 := by decide +kernel
  obtain ⟨rows, written, within, keyed, counts⟩ := puts_keyed_rows t p hub (moves ++ [.stop])
  rw [show (Move.makeAll t.sink (moves ++ [.stop]) (p, hub)).2 = after from rfl] at rows counts
  refine ⟨calls, count, ?_, written, within, keyed, ?_⟩
  · have put : Store.Call.put 1 "t" [⟨some (Utf8.ofString "7"), []⟩, ⟨some [], []⟩] ∈
        hub.callsSince after.2 := by
      rw [calls]
      exact .tail _ (.head _)
    obtain ⟨data, isRecord, key, hasKey, -, empty⟩ := rows _ put (some []) (.tail _ (.head _))
    exact ⟨data, isRecord, key, hasKey, empty.mp rfl⟩
  · rw [count] at counts
    exact (counts.trans (Nat.zero_add _)).symm

end TableSink
end Stream
end WideColumn
