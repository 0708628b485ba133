import WideColumn.Proofs.Store.Puts
import WideColumn.Service.Write

/-! Writing to a store that takes what it is given. A put then asks for its table once and makes one
table put, and it logs the mutations themselves or, at a gateway, batches that are all sent. -/
namespace WideColumn

open Store (Call Event Point)

namespace Store

/-- The points that are passed when cells are written. -/
def writePoints : List Point := [.table, .put, .batch, .batchPut, .batchSend]

/-- A store in which nothing fails that has to do with writing. -/
def IsReliable (s : Store) : Prop := ∀ point ∈ writePoints, s.plan point = none

end Store

/-- A cell whose column has a name. -/
structure CellWrite.IsNamed (c : CellWrite) : Prop where
  family : c.family.isSome
  qualifier : c.qualifier.isSome

theorem CellWrite.IsNamed.columnName {c : CellWrite} (h : c.IsNamed) :
    Client.columnName c = .ok c.name := by
  obtain ⟨family, qualifier, value, timestamp⟩ := c
  obtain ⟨b, rfl⟩ := Option.isSome_iff_exists.mp h.family
  obtain ⟨b', rfl⟩ := Option.isSome_iff_exists.mp h.qualifier
  rfl

/-- What a client is after it has made calls and logged events while it wrote. -/
structure Client.Wrote (calls : List Call) (events : List Event) (c c' : Client) : Prop where
  connection : c'.service.connection = c.service.connection
  plan : c'.store.plan = c.store.plan
  calls : c'.store.calls.map (·.call) = c.store.calls.map (·.call) ++ calls
  log : c'.store.log = c.store.log ++ events
  published : ∀ publisher table, c'.metrics.count (.published publisher table) =
    c.metrics.count (.published publisher table)

/-- From a client, an action ends with a result after it has made calls and logged events. -/
def Ends {α : Type} (c : Client) (a : Action Client α) (x : α) (calls : List Call)
    (events : List Event) : Prop := ∃ c', a c = (.ok x, c') ∧ Client.Wrote calls events c c'

namespace Client

variable {calls more : List Call} {events later : List Event} {c c' c'' : Client}

theorem Wrote.refl (c : Client) : Wrote [] [] c c :=
  ⟨rfl, rfl, (List.append_nil _).symm, (List.append_nil _).symm, fun _ _ => rfl⟩

theorem Wrote.trans (first : Wrote calls events c c') (second : Wrote more later c' c'') :
    Wrote (calls ++ more) (events ++ later) c c'' where
  connection := second.connection.trans first.connection
  plan := second.plan.trans first.plan
  calls := by rw [second.calls, first.calls, List.append_assoc]
  log := by rw [second.log, first.log, List.append_assoc]
  published publisher table := (second.published _ _).trans (first.published _ _)

theorem Wrote.reliable (h : Wrote calls events c c') (reliable : c.store.IsReliable) :
    c'.store.IsReliable := by
  intro point member
  rw [h.plan]
  exact reliable point member

end Client

namespace Ends

variable {α β : Type} {c : Client} {a : Action Client α} {f : α → Action Client β} {x : α} {y : β}
  {calls more : List Call} {events later : List Event}

theorem pure (x : α) : Ends c (Pure.pure x) x [] [] := ⟨c, rfl, .refl c⟩

theorem bind (first : Ends c a x calls events)
    (next : ∀ c', Client.Wrote calls events c c' → Ends c' (f x) y more later) :
    Ends c (a >>= f) y (calls ++ more) (events ++ later) := by
  obtain ⟨c', ran, wrote⟩ := first
  obtain ⟨c'', ran', wrote'⟩ := next c' wrote
  exact ⟨c'', (Action.bind_of_ok ran).trans ran', wrote.trans wrote'⟩

/-- A sequence whose first part changes nothing that counts. -/
theorem after (first : Ends c a x [] [])
    (next : ∀ c', Client.Wrote [] [] c c' → Ends c' (f x) y calls events) :
    Ends c (a >>= f) y calls events := first.bind next

/-- A sequence whose last part changes nothing that counts. -/
theorem before (first : Ends c a x calls events)
    (next : ∀ c', Client.Wrote calls events c c' → Ends c' (f x) y [] []) :
    Ends c (a >>= f) y calls events := by
  have joined := first.bind next
  rwa [List.append_nil, List.append_nil] at joined

theorem modify {f : Client → Client} (h : Client.Wrote [] [] c (f c)) :
    Ends c (.modify f) () [] [] := ⟨_, rfl, h⟩

theorem attempt (h : Ends c a x calls events) : Ends c (Action.attempt a) (.ok x) calls events := by
  obtain ⟨c', ran, wrote⟩ := h
  refine ⟨c', ?_, wrote⟩
  rw [Action.attempt, ran]

theorem log (e : Event) : Ends c (Client.log e) () [] [e] :=
  ⟨_, rfl, rfl, rfl, (List.append_nil _).symm, rfl, fun _ _ => rfl⟩

theorem note (call : Call) : Ends c (Client.note call) () [call] [] :=
  ⟨_, rfl, rfl, rfl, List.map_append, (List.append_nil _).symm, fun _ _ => rfl⟩

theorem pass {point : Point} (reliable : c.store.IsReliable) (written : point ∈ Store.writePoints) :
    Ends c (Client.pass point) () [] [] := by
  refine ⟨c, ?_, .refl c⟩
  have passed : c.store.pass point = (none, c.store) := by
    rw [Store.pass, reliable point written]
  rw [Client.pass, passed]

theorem count {s : Series} (n : Nat)
    (other : ∀ publisher table, s ≠ .published publisher table) :
    Ends c (Client.count s n) () [] [] := by
  refine ⟨_, rfl, rfl, rfl, (List.append_nil _).symm, (List.append_nil _).symm, ?_⟩
  intro publisher table
  change ((c.metrics.counts.insert s _).get? _).getD 0 = _
  rw [OrderedMap.get?_insert_of_ne _ _ (other publisher table)]
  rfl

end Ends

namespace Client

variable {c : Client} (reliable : c.store.IsReliable) (table : String)

include reliable

theorem fillBatch_ends {cells : List RowCell} (named : ∀ d ∈ cells, d.cell.IsNamed) :
    Ends c (fillBatch cells) () []
      (cells.map fun d => Event.batchFilled d.row d.cell.name d.cell.value) := by
  induction cells generalizing c with
  | nil => exact .pure ()
  | cons d rest ih =>
    obtain ⟨first, others⟩ := List.forall_mem_cons.mp named
    rw [fillBatch, first.columnName]
    refine .after (.pure _) fun c₁ wrote₁ => ?_
    refine Ends.bind (.log _) fun c₂ wrote₂ => ?_
    have reliable₂ := wrote₂.reliable (wrote₁.reliable reliable)
    refine .after (.pass reliable₂ (by decide)) fun c₃ wrote₃ => ?_
    exact ih (wrote₃.reliable reliable₂) others

theorem sendRun_ends {run : Run} (named : ∀ d ∈ run.cells, d.cell.IsNamed) :
    Ends c (sendRun table run) () [] (run.events table) := by
  refine Ends.bind (.log _) fun c₁ wrote₁ => ?_
  have reliable₁ := wrote₁.reliable reliable
  refine .after (.pass reliable₁ (by decide)) fun c₂ wrote₂ => ?_
  have reliable₂ := wrote₂.reliable reliable₁
  refine Ends.bind (fillBatch_ends reliable₂ named).attempt fun c₃ wrote₃ => ?_
  refine Ends.bind (.log _) fun c₄ wrote₄ => ?_
  exact .pass (wrote₄.reliable (wrote₃.reliable reliable₂)) (by decide)

theorem sendRuns_ends {runs : List Run} (named : ∀ run ∈ runs, ∀ d ∈ run.cells, d.cell.IsNamed) :
    Ends c (sendRuns table runs) () [] (runs.flatMap (Run.events table)) := by
  induction runs generalizing c with
  | nil => exact .pure ()
  | cons run rest ih =>
    obtain ⟨first, others⟩ := List.forall_mem_cons.mp named
    refine Ends.bind (sendRun_ends reliable table first) fun c₁ wrote₁ => ?_
    exact ih (wrote₁.reliable reliable) others

variable (connection : Connection) {mutations : List Mutation}

theorem writeTable_ends (named : connection.backend = .gateway →
      ∀ m ∈ mutations, ∀ cell ∈ m.cells, cell.IsNamed) :
    Ends c (writeTable connection table mutations) ()
      (Store.putCalls connection table mutations)
      (Store.putEvents connection.backend table mutations) := by
  have lookedUp : Ends c (lookUp connection table) () [.lookedUp connection.number table] [] := by
    refine Ends.bind (.note _) fun c₁ wrote₁ => ?_
    exact .pass (wrote₁.reliable reliable) (by decide)
  refine Ends.bind lookedUp fun c₁ wrote₁ => ?_
  have reliable₁ := wrote₁.reliable reliable
  refine Ends.bind (.note (.put connection.number table mutations)) fun c₂ wrote₂ => ?_
  have reliable₂ := wrote₂.reliable reliable₁
  cases backend : connection.backend with
  | direct =>
    refine Ends.bind (.log _) fun c₃ wrote₃ => ?_
    exact .pass (wrote₃.reliable reliable₂) (by decide)
  | gateway =>
    refine sendRuns_ends reliable₂ table fun run inRuns d inRun => ?_
    obtain ⟨m, inMutations, cell, inRow, rfl⟩ := Run.exists_of_mem_ofMutations inRuns inRun
    exact named backend m inMutations cell inRow

theorem putTable_ends (named : connection.backend = .gateway →
      ∀ m ∈ mutations, ∀ cell ∈ m.cells, cell.IsNamed) :
    Ends c (putTable connection table mutations) ()
      (Store.putCalls connection table mutations)
      (Store.putEvents connection.backend table mutations) := by
  refine .before (writeTable_ends reliable table connection named).attempt fun _ _ => ?_
  refine .after (.count _ nofun) fun _ _ => ?_
  refine .after (.count _ nofun) fun _ _ => ?_
  refine .after (.count _ nofun) fun _ _ => ?_
  refine .after (.count _ nofun) fun _ _ => ?_
  have observed {c' : Client} : Wrote [] [] c'
      { c' with metrics := c'.metrics.observeBatch table mutations.length } :=
    ⟨rfl, rfl, (List.append_nil _).symm, (List.append_nil _).symm, fun _ _ => rfl⟩
  have counted {c' : Client} : Wrote [] [] c'
      { c' with service := { c'.service with putCount := c'.service.putCount + 1 } } :=
    ⟨rfl, rfl, (List.append_nil _).symm, (List.append_nil _).symm, fun _ _ => rfl⟩
  exact .after (.modify observed) fun _ _ => .modify counted

omit reliable in
theorem requireConnection_ends (connected : c.service.connection = some connection) :
    Ends c requireConnection connection [] [] := by
  refine ⟨c, ?_, .refl c⟩
  rw [requireConnection, Action.get_bind, connected]
  rfl

/-- A put of requests that all go to one table. -/
theorem put_ends (connected : c.service.connection = some connection) {requests : List PutRequest}
    (filled : requests ≠ []) (same : ∀ r ∈ requests, r.tableOr (some table) = some table)
    (named : connection.backend = .gateway →
      ∀ r ∈ requests, ∀ cell ∈ r.columns, cell.IsNamed) :
    Ends c (put table requests) () (Store.putCalls connection table (Mutation.batch requests))
      (Store.putEvents connection.backend table (Mutation.batch requests)) := by
  refine .after (requireConnection_ends connection connected) fun c₁ wrote₁ => ?_
  rw [Mutation.batchByTable_same filled same]
  have named' : connection.backend = .gateway →
      ∀ m ∈ Mutation.batch requests, ∀ cell ∈ m.cells, cell.IsNamed := by
    intro gateway m inBatch cell inCells
    obtain ⟨r, inRequests, inRequest⟩ := Mutation.exists_of_mem_batch inBatch inCells
    obtain ⟨column, inColumns, rfl⟩ := List.mem_map.mp inRequest
    obtain ⟨family, qualifier⟩ := named gateway r inRequests column inColumns
    exact ⟨family, qualifier⟩
  refine .before (putTable_ends (wrote₁.reliable reliable) table connection named') fun _ _ => ?_
  exact .pure ()

end Client
end WideColumn
