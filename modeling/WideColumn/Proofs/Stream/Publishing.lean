import WideColumn.Proofs.Action
import WideColumn.Proofs.Stream.Sink

/-! Publishing record after record. A publisher that collects records hands them over in groups, and
each of them is in one group, in their order; where the groups end depends on the number of records
that wait and on who else asks for it. -/
namespace WideColumn.Stream

/-- What is done with a publisher until it is stopped. -/
inductive Operation
  | publish (data : Value)
  | flush
  | tick

namespace Operation

variable {σ : Type}

/-- Does what is asked for, if it does not wait for ever. A fault is the business of the caller, who
goes on. -/
def perform (sink : Sink σ) : Operation → Action (Publisher × σ) (Call Unit)
  | publish data => do
    match ← Action.attempt (Publisher.publish sink data) with
    | .ok call => return call
    | .error _ => return .returned ()
  | flush => do
    Publisher.flush sink
    return .returned ()
  | tick => do
    let _ ← Publisher.tick sink
    return .returned ()

def record? : Operation → Option Value
  | publish data => some data
  | flush | tick => none

/-- The records that are published, in their order. -/
def records (operations : List Operation) : List Value := operations.filterMap record?

end Operation

namespace Publisher

variable {σ : Type}

/-- Does one operation after the other, and stops the publisher then. -/
def run (sink : Sink σ) : List Operation → Action (Publisher × σ) (Call Unit)
  | [] => do
    stop sink
    return .returned ()
  | operation :: rest => do
    match ← operation.perform sink with
    | .returned () => run sink rest
    | .blocked => return .blocked

theorem ne_blocked {outcome : Except Fault (Call Unit)}
    (returned : outcome.toOption = some (.returned ())) : outcome ≠ .ok .blocked := by
  rintro rfl
  cases returned

/-- Whether the records that wait are so many that they are handed over at once. -/
def isDue (batchSize : Value) (waiting : List Value) : Bool :=
  (Queue.reaches batchSize waiting).toOption.getD false

/-- The groups in which records are handed over while operations are done. -/
def groups (batchSize : Value) : List Value → List Operation → List (List Value)
  | waiting, [] => [waiting]
  | waiting, .publish data :: rest =>
    if isDue batchSize (waiting ++ [data]) then
      (waiting ++ [data]) :: groups batchSize [] rest
    else groups batchSize (waiting ++ [data]) rest
  | waiting, .flush :: rest | waiting, .tick :: rest => waiting :: groups batchSize [] rest

/-- Every record that waits or is published is in one group. -/
theorem flatten_groups (batchSize : Value) (waiting : List Value) (operations : List Operation) :
    (groups batchSize waiting operations).flatten = waiting ++ Operation.records operations := by
  fun_induction groups batchSize waiting operations with
  | case1 waiting => simp [Operation.records]
  | case2 waiting data rest due ih =>
    rw [List.flatten_cons, ih, List.append_assoc]
    rfl
  | case3 waiting data rest notDue ih =>
    rw [ih, List.append_assoc]
    rfl
  | case4 waiting rest ih =>
    rw [List.flatten_cons, ih]
    rfl
  | case5 waiting rest ih =>
    rw [List.flatten_cons, ih]
    rfl

theorem flatten_groups_nil (batchSize : Value) (operations : List Operation) :
    (groups batchSize [] operations).flatten = Operation.records operations :=
  flatten_groups batchSize [] operations

/-- A publisher that has not published anything. -/
structure IsFresh (p : Publisher) : Prop where
  empty : p.buffer = []
  running : p.isStopped = false
  none : p.count = 0

/-- The publisher after what waits has been handed over, of which some records count. -/
def handedOver (p : Publisher) (n : Nat) : Publisher :=
  { p with buffer := [], count := p.count + n }

def collecting (p : Publisher) (data : Value) : Publisher :=
  { p with buffer := p.buffer ++ [data] }

variable {sink : Sink σ} {p : Publisher} {s : σ} {data : Value}

theorem counted_ok {a : Action σ Nat} {n : Nat} {s' : σ} (ran : a s = (.ok n, s')) :
    counted a (p, s) = (.ok (), ({ p with count := p.count + n }, s')) := by
  refine Action.bind_of_ok (x := n) (t := (p, s')) ?_
  rw [Action.onPart, ran]

theorem counted_state (a : Action σ Nat) : (counted a (p, s)).2 =
    ({ p with count := p.count + (a s).1.toOption.getD 0 }, (a s).2) := by
  rcases ran : a s with ⟨outcome, s'⟩
  cases outcome with
  | ok n =>
    rw [counted_ok ran]
    rfl
  | error e =>
    refine congrArg Prod.snd (Action.bind_of_error (e := e) (t := (p, s')) ?_)
    rw [Action.onPart, ran]

theorem flush_eq (t : TableSink) (p : Publisher) (hub : Hub) : flush t.sink (p, hub) =
    (.ok (), (p.handedOver ((t.writeBatch p.buffer hub).1.toOption.getD 0),
      (t.writeBatch p.buffer hub).2)) := by
  obtain ⟨name, destination, interval, batchSize, maxDepth, buffer, isStopped, count⟩ := p
  cases buffer with
  | nil => rfl
  | cons data rest => exact Prod.ext rfl (counted_state _)

theorem flush_published {t : TableSink} {connection : Connection} {hub : Hub}
    (ready : t.Ready connection hub) (fits : ∀ data ∈ p.buffer, t.Fits connection data) :
    ∃ hub', flush t.sink (p, hub) =
        (.ok (), (p.handedOver (t.batchRequests p.buffer).length, hub')) ∧
      t.Published connection (t.batchRequests p.buffer) hub hub' := by
  obtain ⟨outcome, hub', ran, counts, published⟩ := TableSink.writeBatch_published ready fits
  refine ⟨hub', ?_, published⟩
  rw [flush_eq, ran, ← counts]

theorem flush_ok (s : Publisher × σ) : (flush sink s).1 = .ok () := by
  obtain ⟨⟨name, destination, interval, batchSize, maxDepth, buffer, isStopped, count⟩, s⟩ := s
  cases buffer with
  | nil => rfl
  | cons data rest => rfl

theorem enqueue_of_bound {bound : Option Nat} (known : Queue.bound p.maxDepth = .ok bound) :
    enqueue sink data (p, s) =
      match Queue.push? bound p.buffer data with
      | none => (.ok .blocked, (p, s))
      | some _ =>
        match Queue.reaches p.batchSize (p.buffer ++ [data]) with
        | .ok true => (.ok (.returned ()), (flush sink (p.collecting data, s)).2)
        | .ok false => (.ok (.returned ()), (p.collecting data, s))
        | .error e => (.error (.mismatch e), (p.collecting data, s)) := by
  have read : (Action.get : Action (Publisher × σ) _) (p, s) = (.ok (p, s), (p, s)) := rfl
  have bounds : (Action.ofExcept ((Queue.bound p.maxDepth).mapError .mismatch) :
      Action (Publisher × σ) _) (p, s) = (.ok bound, (p, s)) := by
    rw [known]
    rfl
  unfold enqueue
  rw [Action.bind_of_ok read]
  dsimp only
  rw [Action.bind_of_ok bounds]
  cases pushed : Queue.push? bound p.buffer data with
  | none => rfl
  | some buffer =>
    obtain rfl := Queue.push?_eq_some pushed
    dsimp only
    cases reached : Queue.reaches p.batchSize (p.buffer ++ [data]) with
    | error e => rfl
    | ok due =>
      cases due with
      | false => rfl
      | true =>
        have flushed : flush sink (p.collecting data, s) =
            (.ok (), (flush sink (p.collecting data, s)).2) := Prod.ext (flush_ok _) rfl
        exact Action.bind_of_ok flushed

theorem enqueue_eq (bounded : p.maxDepth.isNumber) :
    enqueue sink data (p, s) = (.ok .blocked, (p, s)) ∨ enqueue sink data (p, s) =
      (match Queue.reaches p.batchSize (p.buffer ++ [data]) with
        | .ok true => (.ok (.returned ()), (flush sink (p.collecting data, s)).2)
        | .ok false => (.ok (.returned ()), (p.collecting data, s))
        | .error e => (.error (.mismatch e), (p.collecting data, s))) := by
  obtain ⟨bound, known⟩ : ∃ bound, Queue.bound p.maxDepth = .ok bound := by
    rw [Queue.bound, if_pos bounded]
    exact ⟨_, rfl⟩
  rw [enqueue_of_bound known]
  cases Queue.push? bound p.buffer data with
  | none => exact .inl rfl
  | some buffer => exact .inr rfl

theorem perform_state (s : Publisher × σ) : Operation.perform sink (.publish data) s =
    (.ok (match (publish sink data s).1 with | .ok call => call | .error _ => .returned ()),
      (publish sink data s).2) := by
  rcases ran : publish sink data s with ⟨outcome, s'⟩
  have attempted : Action.attempt (publish sink data) s = (.ok outcome, s') := by
    rw [Action.attempt, ran]
  refine (Action.bind_of_ok attempted).trans ?_
  cases outcome with
  | ok call => rfl
  | error e => rfl

theorem perform_enqueue (buffered : p.isBuffered) : Operation.perform sink (.publish data) (p, s) =
    (.ok (match (enqueue sink data (p, s)).1 with | .ok call => call | .error _ => .returned ()),
      (enqueue sink data (p, s)).2) := by
  have published : publish sink data (p, s) = enqueue sink data (p, s) := by
    change (if p.isBuffered then enqueue sink data else _) (p, s) = _
    rw [if_pos buffered]
  rw [← published]
  exact perform_state ..

/-- Publishing a record waits for ever at a full buffer. Else the record is in the buffer, which is
handed over if that is enough. -/
theorem perform_publish (buffered : p.isBuffered) (bounded : p.maxDepth.isNumber) :
    Operation.perform sink (.publish data) (p, s) = (.ok .blocked, (p, s)) ∨
      Operation.perform sink (.publish data) (p, s) = (.ok (.returned ()),
        if isDue p.batchSize (p.buffer ++ [data]) then (flush sink (p.collecting data, s)).2
        else (p.collecting data, s)) := by
  rw [perform_enqueue buffered, isDue]
  refine (enqueue_eq bounded).imp (fun blocked => by rw [blocked]) fun collected => ?_
  rw [collected]
  cases Queue.reaches p.batchSize (p.buffer ++ [data]) with
  | error e => rfl
  | ok due =>
    cases due with
    | false => rfl
    | true => rfl

variable {operation : Operation} {operations rest : List Operation}

theorem run_returned {start next : Publisher × σ}
    (performed : operation.perform sink start = (.ok (.returned ()), next)) :
    run sink (operation :: rest) start = run sink rest next := Action.bind_of_ok performed

theorem run_blocked {start next : Publisher × σ}
    (performed : operation.perform sink start = (.ok .blocked, next)) :
    run sink (operation :: rest) start = (.ok .blocked, next) := Action.bind_of_ok performed

theorem perform_flush (s : Publisher × σ) :
    Operation.perform sink .flush s = (.ok (.returned ()), (flush sink s).2) :=
  Action.bind_of_ok (Prod.ext (flush_ok s) rfl)

theorem perform_tick (buffered : p.isBuffered) (running : p.isStopped = false) :
    Operation.perform sink .tick (p, s) = (.ok (.returned ()), (flush sink (p, s)).2) := by
  have flushed : flush sink (p, s) = (.ok (), (flush sink (p, s)).2) := Prod.ext (flush_ok _) rfl
  have ticked : tick sink (p, s) = (.ok (.waiting p.interval), (flush sink (p, s)).2) := by
    change (if !p.isBuffered || p.isStopped then pure Flusher.done else do
      flush sink
      return .waiting p.interval : Action (Publisher × σ) Flusher) (p, s) = _
    rw [buffered, running]
    exact Action.bind_of_ok flushed
  exact Action.bind_of_ok ticked

/-- Operations that publish requests: one of them waits for ever, or all are done, the requests have
been put in batches of any size, and all of them count. -/
def Publishes (t : TableSink) (connection : Connection) (operations : List Operation)
    (requests : List PutRequest) (p : Publisher) (hub : Hub) : Prop :=
  (run t.sink operations (p, hub)).1 = .ok .blocked ∨ ∃ p' hub',
    run t.sink operations (p, hub) = (.ok (.returned ()), (p', hub')) ∧
      p'.count = p.count + requests.length ∧ t.Published connection requests hub hub'

namespace Publishes

variable {t : TableSink} {connection : Connection} {q : Publisher} {hub : Hub}
  {requests : List PutRequest}

theorem stopped (ready : t.Ready connection hub)
    (fits : ∀ data ∈ p.buffer, t.Fits connection data) :
    Publishes t connection [] (t.batchRequests p.buffer) p hub := by
  obtain ⟨hub', flushed, published⟩ :=
    flush_published (p := { p with isStopped := true }) ready fits
  exact .inr ⟨_, hub', Action.bind_of_ok flushed, rfl, published⟩

/-- An operation that only lets a record wait. -/
theorem waited (performed : operation.perform t.sink (p, hub) = (.ok (.returned ()), (q, hub)))
    (counts : q.count = p.count) (next : Publishes t connection rest requests q hub) :
    Publishes t connection (operation :: rest) requests p hub := by
  rw [Publishes, run_returned performed, ← counts]
  exact next

/-- An operation after which everything that waits has been handed over. -/
theorem handed
    (performed : operation.perform t.sink (p, hub) =
      (.ok (.returned ()), (flush t.sink (q, hub)).2))
    (counts : q.count = p.count) (ready : t.Ready connection hub)
    (fits : ∀ data ∈ q.buffer, t.Fits connection data)
    (next : ∀ n hub', t.Ready connection hub' →
      Publishes t connection rest requests (q.handedOver n) hub') :
    Publishes t connection (operation :: rest) (t.batchRequests q.buffer ++ requests) p hub := by
  obtain ⟨hub', flushed, published⟩ := flush_published ready fits
  rw [flushed] at performed
  rw [Publishes, run_returned performed]
  refine (next _ hub' (published.ready ready)).imp id ?_
  rintro ⟨p', hub'', ran, total, published'⟩
  refine ⟨p', hub'', ran, ?_, published.trans published'⟩
  rw [total, List.length_append, handedOver, counts, Nat.add_assoc]

end Publishes

variable {t : TableSink} {connection : Connection} {hub : Hub}

/-- A publisher that collects records publishes them in groups. -/
theorem publishes_groups (buffered : p.isBuffered) (running : p.isStopped = false)
    (bounded : p.maxDepth.isNumber) (ready : t.Ready connection hub)
    (fits : ∀ data ∈ p.buffer ++ Operation.records operations, t.Fits connection data) :
    Publishes t connection operations
      ((groups p.batchSize p.buffer operations).flatMap t.batchRequests) p hub := by
  -- What waits so far decides where the next group ends, so the publisher varies with the hub.
  induction operations generalizing p hub with
  | nil =>
    rw [groups, List.flatMap_singleton]
    exact .stopped ready fun data member => fits data (List.mem_append_left _ member)
  | cons operation rest ih =>
    have waiting : ∀ data ∈ p.buffer, t.Fits connection data :=
      fun data member => fits data (List.mem_append_left _ member)
    cases operation with
    | publish data =>
      have collected : ∀ d ∈ p.buffer ++ [data] ++ Operation.records rest, t.Fits connection d := by
        rw [List.append_assoc]
        exact fits
      rcases perform_publish buffered bounded with blocked | performed
      · exact .inl (congrArg Prod.fst (run_blocked blocked))
      · rw [groups]
        split at performed
        · next due =>
          rw [if_pos due, List.flatMap_cons]
          refine .handed performed rfl ready ?_ fun n hub' ready' => ?_
          · exact fun d member => collected d (List.mem_append_left _ member)
          · refine ih (p := (p.collecting data).handedOver n) buffered running bounded ready' ?_
            exact fun d member => collected d (List.mem_append_right _ member)
        · next notDue =>
          rw [if_neg notDue]
          exact .waited performed rfl
            (ih (p := p.collecting data) buffered running bounded ready collected)
    | flush =>
      rw [groups, List.flatMap_cons]
      refine .handed (perform_flush _) rfl ready waiting fun n hub' ready' => ?_
      refine ih (p := p.handedOver n) buffered running bounded ready' ?_
      exact fun data member => fits data (List.mem_append_right _ member)
    | tick =>
      rw [groups, List.flatMap_cons]
      refine .handed (perform_tick buffered running) rfl ready waiting fun n hub' ready' => ?_
      refine ih (p := p.handedOver n) buffered running bounded ready' ?_
      exact fun data member => fits data (List.mem_append_right _ member)

/-- Records that a fresh publisher collects are all published in groups, as long as none of them has
to wait for room for ever. -/
theorem IsFresh.publishes_groups (fresh : p.IsFresh) (buffered : p.isBuffered)
    (bounded : p.maxDepth.isNumber) (ready : t.Ready connection hub)
    (fits : ∀ data ∈ Operation.records operations, t.Fits connection data)
    (goesOn : (run t.sink operations (p, hub)).1 ≠ .ok .blocked) :
    ∃ p' hub', run t.sink operations (p, hub) = (.ok (.returned ()), (p', hub')) ∧
      p'.count = ((groups p.batchSize [] operations).flatMap t.batchRequests).length ∧
      t.Published connection ((groups p.batchSize [] operations).flatMap t.batchRequests)
        hub hub' := by
  have all : ∀ data ∈ p.buffer ++ Operation.records operations, t.Fits connection data := by
    rw [fresh.empty]
    exact fits
  have published := Publisher.publishes_groups buffered fresh.running bounded ready all
  rw [fresh.empty] at published
  obtain ⟨p', hub', ran, counts, puts⟩ := published.resolve_left goesOn
  rw [fresh.none, Nat.zero_add] at counts
  exact ⟨p', hub', ran, counts, puts⟩

end Publisher
end WideColumn.Stream
