import WideColumn.Proofs.Metrics
import WideColumn.Proofs.Record.Requests
import WideColumn.Proofs.Service.Hub
import WideColumn.Proofs.Service.Writing
import WideColumn.Stream.TableSink

/-! What a table sink puts. A batch makes one put with the requests of all its records, or none if a
record of it cannot be written; what the puts have written depends only on all their requests, and
not on how these have been batched. -/
namespace WideColumn

open Store (Call Event)

namespace Hub

/-- What has been called since a hub was as it was before. -/
def callsSince (before after : Hub) : List Call :=
  (after.store.calls.drop before.store.calls.length).map (·.call)

/-- What has been logged since a hub was as it was before. -/
def logSince (before after : Hub) : List Event := after.store.log.drop before.store.log.length

end Hub

namespace Stream

/-- The service that a supplier has. -/
def Supplier.service? : Supplier → Option ServiceId
  | shared service | owned service => some service
  | unfit _ => none

theorem Supplier.work_eq {s : Supplier} {id : ServiceId} (has : s.service? = some id) {α : Type}
    (operation : String) (a : Action Client α) : s.work operation a = Hub.onService id a := by
  cases s with
  | shared service =>
    cases has
    rfl
  | owned service =>
    cases has
    rfl
  | unfit _ => cases has

namespace TableSink

/-- The request of a record, if it can be written and has a row key. -/
def request? (t : TableSink) (data : Value) : Option PutRequest := (t.request data).toOption.join

/-- The requests of all records that have one. -/
def requestsOf (t : TableSink) (records : List Value) : List PutRequest :=
  records.filterMap t.request?

/-- The requests of a batch that is put. A record that cannot be written keeps all others back. -/
def batchRequests (t : TableSink) (batch : List Value) : List PutRequest :=
  match batch.mapM t.request with
  | .ok requests => requests.filterMap id
  | .error _ => []

/-- A sink whose service is connected to a store that takes what it is given. -/
structure Ready (t : TableSink) (connection : Connection) (hub : Hub) : Prop where
  named : t.table ≠ ""
  served : ∃ id service, t.supplier.service? = some id ∧ hub.services[id]? = some service ∧
    service.connection = some connection
  reliable : hub.store.IsReliable

/-- A record whose cells a gateway can take, because each has a family. -/
def Fits (t : TableSink) (connection : Connection) (data : Value) : Prop :=
  connection.backend = .gateway → ∀ r, t.request data = .ok (some r) →
    ∀ cell ∈ r.columns, cell.family.isSome

/-- What a hub is after batches of requests have been put. -/
structure Puts (t : TableSink) (connection : Connection) (batches : List (List PutRequest))
    (hub hub' : Hub) : Prop where
  ready : t.Ready connection hub → t.Ready connection hub'
  calls : hub'.store.calls.map (·.call) = hub.store.calls.map (·.call) ++
    (batches.map Mutation.batch).flatMap (Store.putCalls connection t.table)
  log : hub'.store.log = hub.store.log ++
    (batches.map Mutation.batch).flatMap (Store.putEvents connection.backend t.table)
  published : hub'.metrics.count (.published t.publisher t.table) =
    hub.metrics.count (.published t.publisher t.table) + batches.flatten.length

variable {t : TableSink} {connection : Connection} {hub hub' hub'' : Hub}
  {batches more : List (List PutRequest)} {requests : List PutRequest} {batch : List Value}
  {data : Value}

namespace Puts

theorem refl (hub : Hub) : Puts t connection [] hub hub :=
  ⟨id, (List.append_nil _).symm, (List.append_nil _).symm, rfl⟩

theorem trans (first : Puts t connection batches hub hub')
    (second : Puts t connection more hub' hub'') :
    Puts t connection (batches ++ more) hub hub'' where
  ready h := second.ready (first.ready h)
  calls := by
    rw [second.calls, first.calls, List.append_assoc, ← List.flatMap_append, List.map_append]
  log := by rw [second.log, first.log, List.append_assoc, ← List.flatMap_append, List.map_append]
  published := by
    rw [second.published, first.published, List.flatten_append, List.length_append, Nat.add_assoc]

theorem callsSince (h : Puts t connection batches hub hub') : hub.callsSince hub' =
    (batches.map Mutation.batch).flatMap (Store.putCalls connection t.table) := by
  rw [Hub.callsSince, List.map_drop, h.calls, List.drop_left' (List.length_map _)]

theorem logSince (h : Puts t connection batches hub hub') : hub.logSince hub' =
    (batches.map Mutation.batch).flatMap (Store.putEvents connection.backend t.table) := by
  rw [Hub.logSince, h.log, List.drop_left]

theorem cellsOf_batches (row : Option Bytes) (batches : List (List PutRequest)) :
    (batches.map Mutation.batch).flatMap (Mutation.cellsOf row) =
      PutRequest.cellsOf row batches.flatten := by
  induction batches with
  | nil => rfl
  | cons batch rest ih =>
    rw [List.map_cons, List.flatMap_cons, ih, Mutation.cellsOf_batch, List.flatten_cons,
      PutRequest.cellsOf_append]

end Puts

theorem request_eq {r : Option PutRequest} (h : t.request data = .ok r) : t.request? data = r := by
  rw [request?, h]
  rfl

theorem Fits.of_all (h : (t.request? data).all fun r => r.columns.all (·.family.isSome)) :
    t.Fits connection data := by
  rintro - r made cell inRow
  rw [request_eq made] at h
  exact List.all_eq_true.mp h cell inRow

theorem requestsOf_flatten (t : TableSink) (groups : List (List Value)) :
    t.requestsOf groups.flatten = groups.flatMap t.requestsOf := by
  rw [requestsOf, List.filterMap_flatten, ← List.flatMap_def]
  rfl

/-- A batch all of whose records can be written is put whole. -/
theorem batchRequests_of_ok (all : ∀ data ∈ batch, ∃ r, t.request data = .ok r) :
    t.batchRequests batch = t.requestsOf batch := by
  have converted : batch.mapM t.request = .ok (batch.map t.request?) := by
    refine mapM_of_forall₂ ?_
    rw [List.forall₂_map_right_iff, List.forall₂_same]
    intro data member
    obtain ⟨r, made⟩ := all data member
    rw [request_eq made, made]
  rw [batchRequests, converted]
  exact List.filterMap_map

/-- A record that cannot be written keeps its batch from being put. -/
theorem batchRequests_of_error {e : Fault} (member : data ∈ batch)
    (failed : t.request data = .error e) : t.batchRequests batch = [] := by
  unfold batchRequests
  cases converted : batch.mapM t.request with
  | error _ => rfl
  | ok requests =>
    obtain ⟨r, -, made⟩ := exists_of_forall₂ (forall₂_of_mapM converted) member
    cases failed.symm.trans made

theorem of_request {r : PutRequest} (made : t.request data = .ok (some r)) :
    r.table = some t.table ∧ ∀ cell ∈ r.columns, cell.qualifier.isSome := by
  unfold request at made
  cases converted : Record.requestOf t.layout (some t.table) data with
  | error e =>
    rw [converted] at made
    cases made
  | ok r' =>
    rw [converted] at made
    cases made
    exact Record.of_requestOf converted

/-- Requests of records, which a service puts in one call, and counts. -/
theorem put_puts (ready : t.Ready connection hub) (filled : requests ≠ [])
    (made : ∀ r ∈ requests, ∃ data, t.request data = .ok (some r) ∧ t.Fits connection data) :
    ∃ hub', t.put requests hub = (.ok requests.length, hub') ∧
      Puts t connection [requests] hub hub' := by
  obtain ⟨id, service, has, known, connected⟩ := ready.served
  have same : ∀ r ∈ requests, r.tableOr (some t.table) = some t.table := by
    intro r member
    obtain ⟨data, isRequest, -⟩ := made r member
    rw [PutRequest.tableOr, (of_request isRequest).1]
    simp [Option.filter, ready.named]
  have named : connection.backend = .gateway →
      ∀ r ∈ requests, ∀ cell ∈ r.columns, cell.IsNamed := by
    intro gateway r member cell inRow
    obtain ⟨data, isRequest, fits⟩ := made r member
    exact ⟨fits gateway r isRequest cell inRow, (of_request isRequest).2 cell inRow⟩
  obtain ⟨c', ran, wrote⟩ := Client.put_ends (c := ⟨service, hub.store, hub.metrics⟩) ready.reliable
    t.table connection connected filled same named
  have worked : t.supplier.work "put" (Client.put t.table requests) hub =
      (.ok (), hub.withClient id c') := by
    rw [Supplier.work_eq has, Hub.onService_of_known known, ran]
  refine ⟨_, (Action.bind_of_ok worked).trans rfl, ?_, ?_, ?_, ?_⟩
  · intro _
    refine ⟨ready.named, ⟨id, c'.service, has, ?_, wrote.connection.trans connected⟩,
      wrote.reliable ready.reliable⟩
    have inside : id < hub.services.length := (List.getElem?_eq_some_iff.mp known).1
    exact List.getElem?_set_self inside
  · exact wrote.calls.trans (by simp)
  · exact wrote.log.trans (by simp)
  · rw [List.flatten_singleton, ← wrote.published]
    exact Metrics.count_add_self _ _ _

/-- What a hub is after requests have been put, in batches of any size. -/
def Published (t : TableSink) (connection : Connection) (requests : List PutRequest)
    (hub hub' : Hub) : Prop :=
  ∃ batches, batches.flatten = requests ∧ Puts t connection batches hub hub'

namespace Published

variable {later : List PutRequest}

theorem refl (hub : Hub) : Published t connection [] hub hub := ⟨[], rfl, .refl hub⟩

theorem trans (first : Published t connection requests hub hub')
    (second : Published t connection later hub' hub'') :
    Published t connection (requests ++ later) hub hub'' := by
  obtain ⟨batches, rfl, puts⟩ := first
  obtain ⟨more, rfl, puts'⟩ := second
  exact ⟨batches ++ more, List.flatten_append, puts.trans puts'⟩

theorem ready (h : Published t connection requests hub hub') (ready : t.Ready connection hub) :
    t.Ready connection hub' := by
  obtain ⟨batches, -, puts⟩ := h
  exact puts.ready ready

/-- Every row is written the cells of its requests, in their order. -/
theorem written (h : Published t connection requests hub hub') (row : Option Bytes) :
    Store.written t.table row (hub.callsSince hub') = PutRequest.cellsOf row requests := by
  obtain ⟨batches, rfl, puts⟩ := h
  rw [puts.callsSince, Store.written_putCalls, Puts.cellsOf_batches]

/-- A gateway is sent what is written. -/
theorem sent (h : Published t connection requests hub hub')
    (gateway : connection.backend = .gateway) (row : Option Bytes) :
    Store.sent t.table row (hub.logSince hub') =
      (PutRequest.cellsOf row requests).map fun c => RowCell.sent t.table ⟨row, c⟩ := by
  obtain ⟨batches, rfl, puts⟩ := h
  rw [puts.logSince, gateway, Store.sent_putEvents, Puts.cellsOf_batches]

theorem sent_direct (h : Published t connection requests hub hub')
    (direct : connection.backend = .direct) (row : Option Bytes) :
    Store.sent t.table row (hub.logSince hub') = [] := by
  obtain ⟨batches, rfl, puts⟩ := h
  rw [puts.logSince, direct, Store.sent_putEvents_direct]

theorem count (h : Published t connection requests hub hub') :
    hub'.metrics.count (.published t.publisher t.table) =
      hub.metrics.count (.published t.publisher t.table) + requests.length := by
  obtain ⟨batches, rfl, puts⟩ := h
  exact puts.published

end Published

theorem writeBatch_eq {requests : List (Option PutRequest)}
    (converted : batch.mapM t.request = .ok requests) :
    t.writeBatch batch hub = match requests.filterMap id with
      | [] => (.ok 0, hub)
      | first :: more => t.put (first :: more) hub := by
  rw [writeBatch, converted]
  change (match requests.filterMap id with
    | [] => (pure 0 : Action Hub Nat)
    | first :: more => t.put (first :: more)) hub = _
  cases requests.filterMap id with
  | nil => rfl
  | cons first more => rfl

/-- A record that is published on its own is a batch of one. -/
theorem write_eq_writeBatch (data : Value) (hub : Hub) :
    t.write data hub = t.writeBatch [data] hub := by
  rw [write, writeBatch, List.mapM_cons, List.mapM_nil]
  cases t.request data with
  | error e => rfl
  | ok request =>
    cases request with
    | none => rfl
    | some request => rfl

/-- A batch is put with all its requests, or a record of it fails and nothing is put. -/
theorem writeBatch_published (ready : t.Ready connection hub)
    (fits : ∀ data ∈ batch, t.Fits connection data) :
    ∃ outcome hub', t.writeBatch batch hub = (outcome, hub') ∧
      outcome.toOption.getD 0 = (t.batchRequests batch).length ∧
      Published t connection (t.batchRequests batch) hub hub' := by
  cases converted : batch.mapM t.request with
  | error e =>
    rw [batchRequests, writeBatch, converted]
    exact ⟨.error e, hub, rfl, rfl, .refl hub⟩
  | ok requests =>
    have made : ∀ r ∈ requests.filterMap id, ∃ data, t.request data = .ok (some r) ∧
        t.Fits connection data := by
      intro r member
      obtain ⟨_, inRequests, rfl⟩ := List.mem_filterMap.mp member
      obtain ⟨data, inBatch, isRequest⟩ :=
        exists_of_forall₂ (List.Forall₂.flip (forall₂_of_mapM converted)) inRequests
      exact ⟨data, isRequest, fits data inBatch⟩
    rw [batchRequests, converted, writeBatch_eq converted]
    dsimp only
    cases found : requests.filterMap id with
    | nil => exact ⟨.ok 0, hub, rfl, rfl, .refl hub⟩
    | cons first more =>
      rw [found] at made
      obtain ⟨hub', ran, puts⟩ := put_puts ready (List.cons_ne_nil first more) made
      exact ⟨_, hub', ran, rfl, [first :: more], List.flatten_singleton, puts⟩

/-- A record that can be written is put on its own, if it has a row key. -/
theorem write_published (ready : t.Ready connection hub) (fits : t.Fits connection data)
    {r : Option PutRequest} (made : t.request data = .ok r) :
    ∃ hub', t.write data hub = (.ok r.toList.length, hub') ∧
      Published t connection r.toList hub hub' := by
  have read : (Action.ofExcept (t.request data) : Action Hub _) hub = (.ok r, hub) := by
    rw [made]
    rfl
  cases r with
  | none => exact ⟨hub, Action.bind_of_ok read, .refl hub⟩
  | some r =>
    have asked : ∀ r' ∈ [r], ∃ data, t.request data = .ok (some r') ∧ t.Fits connection data :=
      List.forall_mem_singleton.mpr ⟨data, made, fits⟩
    obtain ⟨hub', ran, puts⟩ := put_puts ready (List.cons_ne_nil r []) asked
    exact ⟨hub', (Action.bind_of_ok read).trans ran, [[r]], rfl, puts⟩

end TableSink
end Stream
end WideColumn
