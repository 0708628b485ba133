import Mathlib.Algebra.Order.BigOperators.Group.List
import Mathlib.Algebra.Order.Group.Nat
import WideColumn.Proofs.Stream.Publishing

/-! What a record that cannot be written keeps back. It is every record of the group in which it is
handed over, and no other one. -/
namespace WideColumn.Stream

open Publisher (run groups)

namespace TableSink

variable {t : TableSink} {connection : Connection} {hub : Hub} {p : Publisher}
  {operations : List Operation} {group : List Value}

/-- Whether all records of a group can be written. -/
def canWrite (t : TableSink) (group : List Value) : Bool :=
  group.all fun data => (t.request data).isOk

theorem batchRequests_eq (t : TableSink) (group : List Value) :
    t.batchRequests group = if t.canWrite group then t.requestsOf group else [] := by
  split
  · next all =>
    refine batchRequests_of_ok fun data member => ?_
    have isOk := List.all_eq_true.mp all data member
    cases made : t.request data with
    | ok r => exact ⟨r, rfl⟩
    | error e =>
      rw [made] at isOk
      cases isOk
  · next some =>
    obtain ⟨data, member, fails⟩ : ∃ data ∈ group, (t.request data).isOk = false := by
      simpa [canWrite] using some
    cases made : t.request data with
    | ok r =>
      rw [made] at fails
      cases fails
    | error e => exact batchRequests_of_error member made

theorem flatMap_batchRequests (t : TableSink) (gs : List (List Value)) :
    gs.flatMap t.batchRequests = (gs.filter t.canWrite).flatMap t.requestsOf := by
  induction gs with
  | nil => rfl
  | cons group rest ih =>
    rw [List.flatMap_cons, ih, batchRequests_eq]
    cases writes : t.canWrite group with
    | true => simp [writes]
    | false => simp [writes]

theorem cellsOf_flatMap {α : Type} (row : Option Bytes) (requests : α → List PutRequest)
    (as : List α) : PutRequest.cellsOf row (as.flatMap requests) =
      as.flatMap fun a => PutRequest.cellsOf row (requests a) := by
  rw [PutRequest.cellsOf, List.filter_flatMap, List.flatMap_assoc]
  rfl

/-- A request whose row has no cells at all writes none. -/
theorem columns_eq_nil {requests : List PutRequest} {r : PutRequest} (member : r ∈ requests)
    (none : PutRequest.cellsOf r.row requests = []) : r.columns = [] := by
  have noCells := List.flatMap_eq_nil_iff.mp none r
    (List.mem_filter.mpr ⟨member, decide_eq_true rfl⟩)
  exact List.map_eq_nil_iff.mp noCells

/-- Groups lose no cells exactly if those that cannot be written have none. -/
theorem complete_iff (t : TableSink) (gs : List (List Value)) :
    (∀ row, (PutRequest.cellsOf row (gs.flatMap t.batchRequests)).Perm
        (PutRequest.cellsOf row (t.requestsOf gs.flatten))) ↔
      ∀ group ∈ gs, t.canWrite group = false → ∀ r ∈ t.requestsOf group, r.columns = [] := by
  simp only [requestsOf_flatten, cellsOf_flatMap]
  constructor
  · intro same group inGroups fails r member
    refine columns_eq_nil member (List.length_eq_zero_iff.mp ?_)
    by_contra lost
    -- No group writes more cells than its requests have, so a group that loses some leaves fewer.
    have fewer : ∀ g ∈ gs, (PutRequest.cellsOf r.row (t.batchRequests g)).length ≤
        (PutRequest.cellsOf r.row (t.requestsOf g)).length := by
      intro g _
      rw [batchRequests_eq]
      split
      · exact le_rfl
      · exact Nat.zero_le _
    have less := List.sum_lt_sum _ _ fewer ⟨group, inGroups, ?_⟩
    · rw [← List.length_flatMap, ← List.length_flatMap] at less
      exact absurd (same r.row).length_eq less.ne
    · rw [batchRequests_eq, fails]
      exact Nat.pos_of_ne_zero lost
  · intro harmless row
    refine .of_eq (List.flatMap_congr fun group member => ?_)
    rw [batchRequests_eq]
    split
    · rfl
    · next fails =>
      have none := harmless group member (Bool.eq_false_iff.mpr fails)
      refine (List.flatMap_eq_nil_iff.mpr fun r inGroup => ?_).symm
      exact List.map_eq_nil_iff.mpr (none r (List.mem_filter.mp inGroup).1)

/-- What a record that cannot be written takes with it. A publisher that collects records hands
over each of them in one group, and puts the groups whose records can all be written: every row gets
the cells of their requests, in their order, and a gateway is sent them. So no cells are lost if and
only if the records with cells are in groups without a record that cannot be written. -/
theorem writes_sound_groups (ready : t.Ready connection hub) (buffered : p.isBuffered)
    (fresh : p.IsFresh) (bounded : p.maxDepth.isNumber)
    (fits : ∀ data ∈ Operation.records operations, t.Fits connection data)
    (goesOn : (run t.sink operations (p, hub)).1 ≠ .ok .blocked) :
    ∃ p' hub', run t.sink operations (p, hub) = (.ok (.returned ()), (p', hub')) ∧
      (groups p.batchSize [] operations).flatten = Operation.records operations ∧
      (∀ row, Store.written t.table row (hub.callsSince hub') = PutRequest.cellsOf row
        (((groups p.batchSize [] operations).filter t.canWrite).flatMap t.requestsOf)) ∧
      (connection.backend = .gateway → ∀ row, Store.sent t.table row (hub.logSince hub') =
        (Store.written t.table row (hub.callsSince hub')).map
          fun c => RowCell.sent t.table ⟨row, c⟩) ∧
      ((∀ row, (Store.written t.table row (hub.callsSince hub')).Perm
          (PutRequest.cellsOf row (t.requestsOf (Operation.records operations)))) ↔
        ∀ group ∈ groups p.batchSize [] operations, t.canWrite group = false →
          ∀ r ∈ t.requestsOf group, r.columns = []) := by
  obtain ⟨p', hub', ran, -, published⟩ :=
    fresh.publishes_groups buffered bounded ready fits goesOn
  have inOrder := Publisher.flatten_groups_nil p.batchSize operations
  refine ⟨p', hub', ran, inOrder, fun row => ?_, fun gateway row => ?_, ?_⟩
  · rw [published.written, flatMap_batchRequests]
  · rw [published.sent gateway, published.written]
  · simp only [published.written, ← inOrder]
    exact complete_iff t _

/-- A record is written when it is handed over. The next one is handed over with another one whose
timestamp is no number, and neither is written. -/
theorem writes_sound_groups_bad_timestamp :
    let t : TableSink :=
      { publisher := "p", table := "t", supplier := .shared 0
        layout := { timestampField := .text "ts" } }
    let service : Service :=
      { name := "s", settings := ∅, backend := .gateway, connection := some ⟨1, .gateway⟩ }
    let hub : Hub := { services := [service] }
    let p : Publisher := { name := .text "p", destination := .null, interval := .whole 60 }
    let record := fun (key : String) (timestamp : Value) => Value.dict
      [(.text "__dagserver_key", .text key), (.text "m:b", .text "1"), (.text "ts", timestamp)]
    let operations := [.publish (record "r" (.whole 5)), .flush, .publish (record "s" (.whole 5)),
      .publish (record "u" (.text "abc"))]
    let column := fun (s : String) => some (Utf8.ofString s)
    ∃ p' hub', run t.sink operations (p, hub) = (.ok (.returned ()), (p', hub')) ∧
      Store.written "t" (column "r") (hub.callsSince hub') =
        [⟨column "m", column "b", column "1", some 5⟩] ∧
      Store.written "t" (column "s") (hub.callsSince hub') = [] ∧
      ¬ ∀ row, (Store.written "t" row (hub.callsSince hub')).Perm
        (PutRequest.cellsOf row (t.requestsOf (Operation.records operations))) := by
  intro t service hub p record operations column
  have ready : t.Ready ⟨1, .gateway⟩ hub :=
    ⟨by decide, ⟨0, _, rfl, rfl, rfl⟩, fun _ _ => rfl⟩
  have complete : ∀ data ∈ Operation.records operations,
      (t.request? data).all fun r => r.columns.all (·.family.isSome) := by decide +kernel
  have returned : (run t.sink operations (p, hub)).1.toOption = some (.returned ()) := by
    decide +kernel
  obtain ⟨p', hub', ran, -, written, -, lossless⟩ :=
    writes_sound_groups (t := t) (p := p) ready (by decide) ⟨rfl, rfl, rfl⟩ (by decide)
      (fun data member => .of_all (complete data member))
      (Publisher.ne_blocked returned)
  refine ⟨p', hub', ran, (written _).trans ?_, (written _).trans ?_, lossless.not.mpr ?_⟩
  · decide +kernel
  · decide +kernel
  · decide +kernel

end TableSink
end WideColumn.Stream
