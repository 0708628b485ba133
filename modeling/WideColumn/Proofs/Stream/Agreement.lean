import WideColumn.Proofs.Stream.Publishing

/-! Publishing with a buffer and without one. Records that can all be written reach every row with
the same cells in the same order either way, and as many of them count. -/
namespace WideColumn.Stream

open Publisher (run)

variable {t : TableSink} {connection : Connection} {hub : Hub} {p u : Publisher}
  {operations : List Operation}

namespace Publisher

theorem perform_write {data : Value} {n : Nat} {hub' : Hub} (unbuffered : p.isBuffered = false)
    (written : t.write data hub = (.ok n, hub')) :
    Operation.perform t.sink (.publish data) (p, hub) =
      (.ok (.returned ()), ({ p with count := p.count + n }, hub')) := by
  have published : publish t.sink data (p, hub) =
      (.ok (.returned ()), ({ p with count := p.count + n }, hub')) := by
    change (if p.isBuffered then _ else do
      counted (t.write data)
      return .returned () : Action (Publisher × Hub) (Call Unit)) (p, hub) = _
    rw [unbuffered]
    exact Action.bind_of_ok (counted_ok written)
  rw [perform_state, published]

/-- A publisher that collects no records writes each of them at once. -/
theorem publishes_each {records : List Value} (unbuffered : p.isBuffered = false)
    (empty : p.buffer = []) (ready : t.Ready connection hub)
    (converts : ∀ data ∈ records, ∃ r, t.request data = .ok r)
    (fits : ∀ data ∈ records, t.Fits connection data) :
    ∃ p' hub', run t.sink (records.map .publish) (p, hub) = (.ok (.returned ()), (p', hub')) ∧
      p'.count = p.count + (t.requestsOf records).length ∧
      t.Published connection (t.requestsOf records) hub hub' := by
  induction records generalizing p hub with
  | nil =>
    obtain ⟨name, destination, interval, batchSize, maxDepth, buffer, isStopped, count⟩ := p
    obtain rfl : buffer = [] := empty
    exact ⟨_, hub, rfl, rfl, .refl hub⟩
  | cons data rest ih =>
    obtain ⟨⟨r, made⟩, converts⟩ := List.forall_mem_cons.mp converts
    obtain ⟨first, fits⟩ := List.forall_mem_cons.mp fits
    obtain ⟨hub', written, published⟩ := TableSink.write_published ready first made
    obtain ⟨p', hub'', ran, counts, published'⟩ :=
      ih (p := { p with count := p.count + r.toList.length }) unbuffered empty
        (published.ready ready) converts fits
    have requests : t.requestsOf (data :: rest) = r.toList ++ t.requestsOf rest := by
      rw [TableSink.requestsOf, List.filterMap_cons, TableSink.request_eq made]
      cases r with
      | none => rfl
      | some r => rfl
    refine ⟨p', hub'', (run_returned (perform_write unbuffered written)).trans ran, ?_, ?_⟩
    · rw [counts, requests, List.length_append, Nat.add_assoc]
    · rw [requests]
      exact published.trans published'

end Publisher

namespace TableSink

/-- Where records are cut into groups makes no difference to their requests, if all can be
written. -/
theorem batchRequests_groups (batchSize : Value)
    (converts : ∀ data ∈ Operation.records operations, ∃ r, t.request data = .ok r) :
    (Publisher.groups batchSize [] operations).flatMap t.batchRequests =
      t.requestsOf (Operation.records operations) := by
  have inOrder := Publisher.flatten_groups_nil batchSize operations
  rw [← inOrder, requestsOf_flatten]
  refine List.flatMap_congr fun group member => batchRequests_of_ok fun data inGroup => ?_
  exact converts data (inOrder ▸ List.mem_flatten.mpr ⟨group, member, inGroup⟩)

/-- Publishing with a buffer agrees with publishing without one. A publisher that collects records,
which can all be written, hands them over whenever enough of them wait, it is asked to or its
interval is over, and at last when it is stopped. As long as none of them has to wait for room for
ever, every row is put the same cells in the same order as by a publisher that writes each record at
once, which are the cells of its requests; a gateway is sent the same cells, and as many records
count as published. -/
theorem buffered_agrees (ready : t.Ready connection hub) (buffered : p.isBuffered)
    (unbuffered : u.isBuffered = false) (fresh : p.IsFresh) (fresh' : u.IsFresh)
    (bounded : p.maxDepth.isNumber)
    (converts : ∀ data ∈ Operation.records operations, ∃ r, t.request data = .ok r)
    (fits : ∀ data ∈ Operation.records operations, t.Fits connection data)
    (goesOn : (run t.sink operations (p, hub)).1 ≠ .ok .blocked) :
    ∃ p' hub₁ u' hub₂, run t.sink operations (p, hub) = (.ok (.returned ()), (p', hub₁)) ∧
      run t.sink ((Operation.records operations).map .publish) (u, hub) =
        (.ok (.returned ()), (u', hub₂)) ∧
      (∀ row, Store.written t.table row (hub.callsSince hub₁) =
        Store.written t.table row (hub.callsSince hub₂)) ∧
      (∀ row, Store.written t.table row (hub.callsSince hub₂) =
        PutRequest.cellsOf row (t.requestsOf (Operation.records operations))) ∧
      (∀ row, Store.sent t.table row (hub.logSince hub₁) =
        Store.sent t.table row (hub.logSince hub₂)) ∧
      p'.count = u'.count ∧
      hub₁.metrics.count (.published t.publisher t.table) =
        hub₂.metrics.count (.published t.publisher t.table) := by
  obtain ⟨p', hub₁, ran, counts, published⟩ :=
    fresh.publishes_groups buffered bounded ready fits goesOn
  obtain ⟨u', hub₂, ran', counts', published'⟩ :=
    Publisher.publishes_each unbuffered fresh'.empty ready converts fits
  rw [batchRequests_groups p.batchSize converts] at counts published
  refine ⟨p', hub₁, u', hub₂, ran, ran', ?_, published'.written, ?_, ?_, ?_⟩
  · intro row
    rw [published.written, published'.written]
  · intro row
    cases backend : connection.backend with
    | direct => rw [published.sent_direct backend, published'.sent_direct backend]
    | gateway => rw [published.sent backend, published'.sent backend]
  · rw [counts, counts', fresh'.none, Nat.zero_add]
  · rw [published.count, published'.count]

/-- Four records, one of them without a row key, that are handed over when two of them wait, when
the interval is over, when they are asked for and when the publisher is stopped. -/
theorem buffered_agrees_regrouped :
    let t : TableSink :=
      { publisher := "p", table := "t", supplier := .shared 0
        layout := { timestampField := .text "ts" } }
    let service : Service :=
      { name := "s", settings := ∅, backend := .gateway, connection := some ⟨1, .gateway⟩ }
    let hub : Hub := { services := [service] }
    let p : Publisher :=
      { name := .text "p", destination := .null, interval := .whole 60, batchSize := .whole 2 }
    let record := fun (key value : String) (timestamp : Int) => Value.dict
      [(.text "__dagserver_key", .text key), (.text "m:b", .text value),
        (.text "ts", .whole timestamp)]
    let operations := [.publish (record "r" "1" 5), .publish (record "s" "2" 5), .tick,
      .publish (record "" "3" 7), .flush, .publish (record "r" "4" 9)]
    let u := { p with interval := .whole 0 }
    ∃ p' hub₁ u' hub₂, run t.sink operations (p, hub) = (.ok (.returned ()), (p', hub₁)) ∧
      run t.sink ((Operation.records operations).map .publish) (u, hub) =
        (.ok (.returned ()), (u', hub₂)) ∧
      (∀ row, Store.sent "t" row (hub.logSince hub₁) = Store.sent "t" row (hub.logSince hub₂)) ∧
      p'.count = u'.count := by
  intro t service hub p record operations u
  have ready : t.Ready ⟨1, .gateway⟩ hub :=
    ⟨by decide, ⟨0, _, rfl, rfl, rfl⟩, fun _ _ => rfl⟩
  have converted : ∀ data ∈ Operation.records operations, (t.request data).toOption.isSome := by
    decide +kernel
  have complete : ∀ data ∈ Operation.records operations,
      (t.request? data).all fun r => r.columns.all (·.family.isSome) := by decide +kernel
  have returned : (run t.sink operations (p, hub)).1.toOption = some (.returned ()) := by
    decide +kernel
  obtain ⟨p', hub₁, u', hub₂, ran, ran', -, -, sent, count, -⟩ :=
    buffered_agrees (t := t) (p := p) (u := u) ready (by decide) (by decide) ⟨rfl, rfl, rfl⟩
      ⟨rfl, rfl, rfl⟩ (by decide)
      (fun data member => (Option.isSome_iff_exists.mp (converted data member)).imp
        fun _ => toOption_eq_some)
      (fun data member => .of_all (complete data member))
      (Publisher.ne_blocked returned)
  exact ⟨p', hub₁, u', hub₂, ran, ran', sent, count⟩

/-- A gateway cannot take a cell without a family. A record with such a cell keeps another one back
where both are handed over together, but not where each is written at once. -/
theorem buffered_disagrees_without_family :
    let t : TableSink :=
      { publisher := "p", table := "t", supplier := .shared 0, layout := { columnFamily := .null } }
    let service : Service :=
      { name := "s", settings := ∅, backend := .gateway, connection := some ⟨1, .gateway⟩ }
    let hub : Hub := { services := [service] }
    let p : Publisher := { name := .text "p", destination := .null, interval := .whole 60 }
    let u : Publisher := { name := .text "p", destination := .null }
    let record := fun (key name : String) => Value.dict
      [(.text "__dagserver_key", .text key), (.text name, .text "1")]
    let operations := [.publish (record "r" "m:b"), .publish (record "s" "a")]
    let collected := run t.sink operations (p, hub)
    let written := run t.sink operations (u, hub)
    t.Ready ⟨1, .gateway⟩ hub ∧ p.isBuffered ∧ u.isBuffered = false ∧
      (∀ data ∈ Operation.records operations, ∃ r, t.request data = .ok r) ∧
      collected.1 = .ok (.returned ()) ∧ written.1 = .ok (.returned ()) ∧
      ¬ (∀ row, Store.sent "t" row (hub.logSince collected.2.2) =
        Store.sent "t" row (hub.logSince written.2.2)) ∧
      collected.2.1.count ≠ written.2.1.count := by
  intro t service hub p u record operations collected written
  have converted : ∀ data ∈ Operation.records operations, (t.request data).toOption.isSome := by
    decide +kernel
  have first : collected.1.toOption = some (.returned ()) := by decide +kernel
  have second : written.1.toOption = some (.returned ()) := by decide +kernel
  refine ⟨⟨by decide, ⟨0, _, rfl, rfl, rfl⟩, fun _ _ => rfl⟩, by decide, by decide, ?_,
    toOption_eq_some first, toOption_eq_some second, fun same => ?_, by decide +kernel⟩
  · exact fun data member => (Option.isSome_iff_exists.mp (converted data member)).imp
      fun _ => toOption_eq_some
  · have differs : Store.sent "t" (some (Utf8.ofString "r")) (hub.logSince collected.2.2) ≠
        Store.sent "t" (some (Utf8.ofString "r")) (hub.logSince written.2.2) := by decide +kernel
    exact differs (same _)

end TableSink
end WideColumn.Stream
