import WideColumn.Proofs.Stream.Publishing

/-! The buffer of a publisher against the batches that are handed over. Records come into the buffer
in their order and leave it all at once, so a buffer with room for as many records as make a batch
is never full when a record comes. What becomes of a batch does not matter to the buffer. -/
namespace WideColumn

namespace Value

/-- A number whose least whole number is above zero is itself neither zero nor below. -/
theorem isSet_of_ceiling {v : Value} {n : Int} (ceiling : v.ceiling? = some n) (positive : 0 < n) :
    v.isSet ∧ v.isNumber ∧ v.isNegative = false := by
  cases v with
  | null | text _ | bytes _ | list _ | dict _ => cases ceiling
  | flag b =>
    cases b with
    | false =>
      cases ceiling
      cases positive
    | true => exact ⟨rfl, rfl, rfl⟩
  | whole m =>
    cases ceiling
    have nonzero : n ≠ 0 := by omega
    have notBelow : ¬ n < 0 := by omega
    exact ⟨bne_iff_ne.mpr nonzero, rfl, decide_eq_false notBelow⟩
  | double x =>
    simp only [ceiling?] at ceiling
    split at ceiling
    · next negative m class_eq =>
      cases negative with
      | true =>
        have below : -(m.floor : Int) = n := Option.some.inj ceiling
        omega
      | false =>
        refine ⟨?_, rfl, ?_⟩
        · -- A double that is zero has zero as its least whole number.
          rw [isSet, Binary64.isNonzero, class_eq]
          refine bne_iff_ne.mpr fun zero => ?_
          have none : m.fraction.1 = 0 := by
            rw [Binary64.Magnitude.fraction]
            split
            · exact zero
            · rw [zero, Nat.zero_mul]
          have floor : m.floor = 0 := by
            rw [Binary64.Magnitude.floor, none, Nat.zero_div]
          have exact : m.whole? = some 0 := by
            rw [Binary64.Magnitude.whole?, none, Nat.zero_mod, if_pos rfl, floor]
          rw [exact, floor] at ceiling
          cases ceiling
          cases positive
        · rw [isNegative, class_eq]
          rfl
    · cases ceiling

end Value

namespace Stream

theorem Queue.reaches_eq {α : Type} {due : Value} {size : Nat}
    (ceiling : due.ceiling? = some (size : Int)) (positive : 1 ≤ size) (items : List α) :
    Queue.reaches due items = .ok (decide (size ≤ items.length)) := by
  obtain ⟨set, number, notBelow⟩ := Value.isSet_of_ceiling ceiling (by omega)
  rw [Queue.reaches, set, number, notBelow, ceiling]
  simp

/-- What is done with a publisher, where stopping it is not the end. -/
inductive Move
  | perform (operation : Operation)
  | stop

namespace Move

variable {σ : Type}

def make (sink : Sink σ) : Move → Action (Publisher × σ) (Call Unit)
  | perform operation => operation.perform sink
  | stop => do
    Publisher.stop sink
    return .returned ()

/-- Makes one move after the other, unless one of them waits for ever. -/
def makeAll (sink : Sink σ) : List Move → Action (Publisher × σ) (Call Unit)
  | [] => return .returned ()
  | move :: rest => do
    match ← move.make sink with
    | .returned () => makeAll sink rest
    | .blocked => return .blocked

def record? : Move → Option Value
  | perform operation => operation.record?
  | stop => none

/-- The records that are published, in their order. -/
def records (moves : List Move) : List Value := moves.filterMap record?

theorem records_cons (move : Move) (rest : List Move) :
    records (move :: rest) = move.record?.toList ++ records rest := by
  rw [records, List.filterMap_cons]
  cases move.record? with
  | none => rfl
  | some data => rfl

end Move

namespace Publisher

variable {σ : Type} {sink : Sink σ} {p : Publisher} {s : σ} {size : Nat}

/-- A publisher that collects records and hands them over when there are as many as a given number,
with room for at least that many. -/
structure IsBatching (p : Publisher) (size : Nat) : Prop where
  buffered : p.isBuffered
  due : p.batchSize.ceiling? = some (size : Int)
  positive : 1 ≤ size
  bounded : p.maxDepth.isNumber
  room : ∀ depth, p.maxDepth.ceiling? = some depth → depth ≤ 0 ∨ (size : Int) ≤ depth

/-- Hands batches over one after the other, whatever comes of each of them. -/
def handOverAll (sink : Sink σ) (batches : List (List Value)) (s : Publisher × σ) : Publisher × σ :=
  batches.foldl (fun s batch => (handOver sink batch s).2) s

/-- What happens behind the sink depends on nothing else, and of the publisher only its count
changes. -/
theorem handOver_counts (sink : Sink σ) (batch : List Value) (s : σ) : ∃ n s', ∀ p,
    (handOver sink batch (p, s)).2 = ({ p with count := p.count + n }, s') := by
  have each (batch : List Value) (s : σ) : ∃ n s', ∀ p,
      (writeEach sink batch (p, s)).2 = ({ p with count := p.count + n }, s') := by
    induction batch generalizing s with
    | nil => exact ⟨0, s, fun p => rfl⟩
    | cons data rest ih =>
      rcases wrote : sink.write data s with ⟨e | n, s'⟩
      · refine ⟨0, s', fun p => ?_⟩
        have failed : counted (sink.write data) (p, s) = (.error e, (p, s')) :=
          Action.bind_of_error (by rw [Action.onPart, wrote])
        rw [writeEach, Action.bind_of_error failed]
        rfl
      · obtain ⟨m, s'', later⟩ := ih s'
        refine ⟨n + m, s'', fun p => ?_⟩
        rw [writeEach, Action.bind_of_ok (counted_ok wrote), later, Nat.add_assoc]
  unfold handOver
  cases sink.writeBatch with
  | none => exact each batch s
  | some writeBatch => exact ⟨_, _, fun p => counted_state _⟩

theorem flush_state (p : Publisher) (s : σ) : (flush sink (p, s)).2 =
    if p.buffer.isEmpty then (p, s)
    else (handOver sink p.buffer ({ p with buffer := [] }, s)).2 := by
  obtain ⟨name, destination, interval, batchSize, maxDepth, buffer, isStopped, count⟩ := p
  cases buffer with
  | nil => rfl
  | cons data rest => rfl

/-- With less than a batch in the buffer there is room for one more record, and the buffer is handed
over if the batch is complete then. -/
theorem IsBatching.perform_publish (batching : p.IsBatching size)
    (short : p.buffer.length < size) (data : Value) :
    Operation.perform sink (.publish data) (p, s) = (.ok (.returned ()),
      if size ≤ (p.buffer ++ [data]).length then (flush sink (p.collecting data, s)).2
      else (p.collecting data, s)) := by
  have known : Queue.bound p.maxDepth =
      .ok ((p.maxDepth.ceiling?.filter (0 < ·)).map Int.toNat) := by
    rw [Queue.bound, if_pos batching.bounded]
  have pushed : Queue.push? ((p.maxDepth.ceiling?.filter (0 < ·)).map Int.toNat) p.buffer data =
      some (p.buffer ++ [data]) := by
    refine if_neg fun full => ?_
    obtain ⟨depth, isDepth, reached⟩ := (Option.any_eq_true ..).mp full
    obtain ⟨limit, isLimit, rfl⟩ := Option.map_eq_some_iff.mp isDepth
    obtain ⟨ceiling, positive⟩ := Option.filter_eq_some_iff.mp isLimit
    have room := batching.room limit ceiling
    simp only [decide_eq_true_eq] at reached positive
    omega
  rw [perform_enqueue batching.buffered, enqueue_of_bound known, pushed,
    Queue.reaches_eq batching.due batching.positive]
  by_cases due : size ≤ (p.buffer ++ [data]).length
  · rw [decide_eq_true due, if_pos due]
  · rw [decide_eq_false due, if_neg due]

theorem perform_tick_of_stopped (stopped : p.isStopped) :
    Operation.perform sink .tick (p, s) = (.ok (.returned ()), (p, s)) := by
  have done : tick sink (p, s) = (.ok .done, (p, s)) := by
    change (if !p.isBuffered || p.isStopped then pure Flusher.done else do
      flush sink
      return .waiting p.interval : Action (Publisher × σ) Flusher) (p, s) = _
    rw [stopped, Bool.or_true]
    rfl
  exact Action.bind_of_ok done

theorem make_stop (s : Publisher × σ) : Move.make sink .stop s =
    (.ok (.returned ()), (flush sink ({ s.1 with isStopped := true }, s.2)).2) := by
  have stopped : stop sink s = (.ok (), (flush sink ({ s.1 with isStopped := true }, s.2)).2) :=
    Prod.ext (flush_ok _) rfl
  exact Action.bind_of_ok stopped

end Publisher

/-- What a publisher has handed over, and what waits in it. -/
structure Buffering where
  batches : List (List Value) := []
  waiting : List Value := []
  isStopped : Bool := false

namespace Buffering

def flushed (b : Buffering) : Buffering :=
  if b.waiting.isEmpty then b else { b with batches := b.batches ++ [b.waiting], waiting := [] }

/-- What a move does to the buffer, where a batch has a given size. -/
def after (size : Nat) (b : Buffering) : Move → Buffering
  | .perform (.publish data) =>
    let collected := { b with waiting := b.waiting ++ [data] }
    if size ≤ collected.waiting.length then collected.flushed else collected
  | .perform .flush => b.flushed
  | .perform .tick => if b.isStopped then b else b.flushed
  | .stop => { b with isStopped := true }.flushed

/-- Records cut into batches, none of them empty or larger than it must be, and a rest that is no
batch yet. -/
structure Splits (size : Nat) (records : List Value) (b : Buffering) : Prop where
  conserved : b.batches.flatten ++ b.waiting = records
  short : b.waiting.length < size
  sized : ∀ batch ∈ b.batches, 1 ≤ batch.length ∧ batch.length ≤ size

variable {size : Nat} {records : List Value} {b : Buffering}

theorem flushed_waiting (b : Buffering) : b.flushed.waiting = [] := by
  unfold flushed
  split
  · next empty => exact List.isEmpty_iff.mp empty
  · rfl

/-- What waits can be handed over as long as it is not more than a batch. -/
theorem splits_flushed (positive : 1 ≤ size) (conserved : b.batches.flatten ++ b.waiting = records)
    (fits : b.waiting.length ≤ size)
    (sized : ∀ batch ∈ b.batches, 1 ≤ batch.length ∧ batch.length ≤ size) :
    Splits size records b.flushed := by
  have short : b.flushed.waiting.length < size := by
    rw [flushed_waiting]
    exact positive
  unfold flushed at short ⊢
  split
  · next empty =>
    rw [if_pos empty] at short
    exact ⟨conserved, short, sized⟩
  · next some =>
    rw [if_neg some] at short
    refine ⟨?_, short, ?_⟩
    · rw [List.flatten_append, List.flatten_singleton, List.append_nil]
      exact conserved
    · rw [List.forall_mem_append]
      refine ⟨sized, List.forall_mem_singleton.mpr ⟨?_, fits⟩⟩
      rw [List.isEmpty_iff] at some
      exact List.length_pos_iff.mpr some

theorem Splits.flush (h : Splits size records b) : Splits size records b.flushed :=
  splits_flushed (Nat.one_le_of_lt h.short) h.conserved h.short.le h.sized

/-- A move adds its record to what has been handed over and what waits. -/
theorem Splits.move (h : Splits size records b) (move : Move) :
    Splits size (records ++ move.record?.toList) (b.after size move) := by
  have same : Splits size (records ++ []) b := by
    rw [List.append_nil]
    exact h
  cases move with
  | stop =>
    exact splits_flushed (b := { b with isStopped := true }) (Nat.one_le_of_lt h.short)
      same.conserved h.short.le h.sized
  | perform operation =>
    cases operation with
    | flush => exact same.flush
    | tick =>
      rw [Buffering.after]
      split
      · exact same
      · exact same.flush
    | publish data =>
      have conserved : b.batches.flatten ++ (b.waiting ++ [data]) = records ++ [data] := by
        rw [← List.append_assoc, h.conserved]
      have fits : (b.waiting ++ [data]).length ≤ size := by
        rw [List.length_append, List.length_singleton]
        exact h.short
      rw [Buffering.after]
      dsimp only
      split
      · exact splits_flushed (Nat.one_le_of_lt h.short) conserved fits h.sized
      · next few => exact ⟨conserved, Nat.not_le.mp few, h.sized⟩

theorem Splits.moves (h : Splits size records b) (moves : List Move) :
    Splits size (records ++ Move.records moves) (moves.foldl (after size) b) := by
  induction moves generalizing b records with
  | nil =>
    rw [Move.records, List.filterMap_nil, List.append_nil]
    exact h
  | cons move rest ih =>
    have next := ih (h.move move)
    rw [List.append_assoc] at next
    rw [Move.records_cons]
    exact next

/-- Nothing waits after a stop. -/
theorem waiting_of_stop {moves : List Move} (last : moves.getLast? = some .stop) :
    (moves.foldl (after size) b).waiting = [] := by
  obtain ⟨before, rfl⟩ := List.getLast?_eq_some_iff.mp last
  rw [List.foldl_append]
  exact flushed_waiting _

variable {σ : Type} {sink : Sink σ} {p q : Publisher} {s t : σ}

/-- A publisher that began as another one has come to a buffering: everything else, behind the sink
too, is as it is after the batches have been handed over. -/
structure Reaches (sink : Sink σ) (p : Publisher) (s : σ) (b : Buffering) (q : Publisher) (t : σ) :
    Prop where
  publisher : q = { p with buffer := b.waiting, isStopped := b.isStopped, count := q.count }
  behind : Publisher.handOverAll sink b.batches (p, s) = ({ p with count := q.count }, t)

theorem Reaches.flush (h : Reaches sink p s b q t) : ∃ q' t',
    (Publisher.flush sink (q, t)).2 = (q', t') ∧ Reaches sink p s b.flushed q' t' := by
  have waits : q.buffer = b.waiting := congrArg Publisher.buffer h.publisher
  rw [Publisher.flush_state, waits]
  unfold flushed
  split
  · exact ⟨q, t, rfl, h⟩
  · obtain ⟨n, t', counts⟩ := Publisher.handOver_counts sink b.waiting t
    rw [counts]
    refine ⟨_, t', rfl, ?_, ?_⟩
    · exact congrArg (fun r : Publisher => { r with buffer := [], count := q.count + n })
        h.publisher
    · have before := h.behind
      rw [Publisher.handOverAll] at before
      rw [Publisher.handOverAll, List.foldl_append, before]
      exact counts _

/-- A move brings the publisher to what it does to the buffer, and does not wait. -/
theorem Reaches.make (h : Reaches sink p s b q t) (batching : q.IsBatching size)
    (short : b.waiting.length < size) (move : Move) : ∃ q' t',
    move.make sink (q, t) = (.ok (.returned ()), (q', t')) ∧
      Reaches sink p s (b.after size move) q' t' := by
  have waits : q.buffer = b.waiting := congrArg Publisher.buffer h.publisher
  cases move with
  | stop =>
    have stopped : Reaches sink p s { b with isStopped := true } { q with isStopped := true } t :=
      ⟨congrArg (fun r : Publisher => { r with isStopped := true }) h.publisher, h.behind⟩
    obtain ⟨q', t', ran, reached⟩ := stopped.flush
    refine ⟨q', t', ?_, reached⟩
    rw [Publisher.make_stop, ran]
  | perform operation =>
    cases operation with
    | flush =>
      obtain ⟨q', t', ran, reached⟩ := h.flush
      refine ⟨q', t', ?_, reached⟩
      rw [Move.make, Publisher.perform_flush, ran]
    | tick =>
      have stops : q.isStopped = b.isStopped := congrArg Publisher.isStopped h.publisher
      rw [after, ← stops]
      cases stopped : q.isStopped with
      | true => exact ⟨q, t, Publisher.perform_tick_of_stopped stopped, h⟩
      | false =>
        obtain ⟨q', t', ran, reached⟩ := h.flush
        refine ⟨q', t', ?_, reached⟩
        rw [Move.make, Publisher.perform_tick batching.buffered stopped, ran]
    | publish data =>
      have collected : Reaches sink p s { b with waiting := b.waiting ++ [data] }
          (q.collecting data) t := by
        refine ⟨?_, h.behind⟩
        rw [← waits]
        exact congrArg (fun r : Publisher => { r with buffer := q.buffer ++ [data] }) h.publisher
      rw [Move.make, batching.perform_publish (waits ▸ short), waits, after]
      split
      · obtain ⟨q', t', ran, reached⟩ := collected.flush
        refine ⟨q', t', ?_, reached⟩
        rw [ran]
      · exact ⟨_, t, rfl, collected⟩

/-- What decides on the batches is never changed. -/
theorem Reaches.batching (h : Reaches sink p s b q t) (batching : p.IsBatching size) :
    q.IsBatching size := by
  rw [h.publisher]
  exact ⟨batching.buffered, batching.due, batching.positive, batching.bounded, batching.room⟩

theorem Reaches.makeAll (h : Reaches sink p s b q t) (batching : p.IsBatching size)
    (splits : Splits size records b) (moves : List Move) : ∃ q' t',
    Move.makeAll sink moves (q, t) = (.ok (.returned ()), (q', t')) ∧
      Reaches sink p s (moves.foldl (after size) b) q' t' := by
  induction moves generalizing b q t records with
  | nil => exact ⟨q, t, rfl, h⟩
  | cons move rest ih =>
    obtain ⟨q', t', made, reached⟩ := h.make (h.batching batching) splits.short move
    obtain ⟨q'', t'', ran, reached'⟩ := ih reached (splits.move move)
    refine ⟨q'', t'', ?_, reached'⟩
    rw [← ran]
    exact Action.bind_of_ok made

end Buffering

namespace Publisher

variable {p : Publisher} {size : Nat}

/-- A publisher with room for a batch never waits. Whatever is done with it and whatever comes of
the batches, it hands the records over in their order and without losing or repeating one, in
batches that are not empty and not too large; what still waits is less than a batch, and nothing
after a stop. -/
theorem conserves_records (batching : p.IsBatching size) (empty : p.buffer = [])
    (moves : List Move) : ∃ batches waiting,
    batches.flatten ++ waiting = Move.records moves ∧ waiting.length < size ∧
      (∀ batch ∈ batches, 1 ≤ batch.length ∧ batch.length ≤ size) ∧
      (moves.getLast? = some .stop → waiting = []) ∧
      ∀ {σ : Type} (sink : Sink σ) (s : σ), ∃ q t,
        Move.makeAll sink moves (p, s) = (.ok (.returned ()), (q, t)) ∧ q.buffer = waiting ∧
          handOverAll sink batches (p, s) = ({ p with count := q.count }, t) := by
  let start : Buffering := { waiting := p.buffer, isStopped := p.isStopped }
  have fresh : Buffering.Splits size [] start := by
    refine ⟨empty, ?_, List.forall_mem_nil _⟩
    rw [List.length_eq_zero_iff.mpr empty]
    exact batching.positive
  have splits := fresh.moves moves
  refine ⟨(moves.foldl (Buffering.after size) start).batches,
    (moves.foldl (Buffering.after size) start).waiting, splits.conserved, splits.short,
    splits.sized, Buffering.waiting_of_stop, fun sink s => ?_⟩
  have begun : Buffering.Reaches sink p s start p s := ⟨rfl, rfl⟩
  obtain ⟨q, t, ran, reached⟩ := begun.makeAll batching fresh moves
  exact ⟨q, t, ran, congrArg Publisher.buffer reached.publisher, reached.behind⟩

/-- Two batches of two records, of which one cannot be written, and the rest at the stop: the sink
has what came before the record that it refuses, and everything after its batch. -/
theorem conserves_records_refused :
    let p : Publisher :=
      { name := .text "p", destination := .null, interval := .whole 60, batchSize := .whole 2,
        maxDepth := .whole 2 }
    let sink := recorder (some (.text "b"))
    let moves := ["a", "b", "c", "d", "e"].map fun data => Move.perform (.publish (.text data))
    p.IsBatching 2 ∧ ∃ batches waiting,
      batches.flatten ++ waiting = Move.records (moves ++ [.stop]) ∧ waiting = [] ∧
        (∀ batch ∈ batches, 1 ≤ batch.length ∧ batch.length ≤ 2) ∧
        ∃ q t, Move.makeAll sink (moves ++ [.stop]) (p, {}) = (.ok (.returned ()), (q, t)) ∧
          handOverAll sink batches (p, {}) = ({ p with count := q.count }, t) ∧
          q.count = 4 ∧
          t.store.log = ["a", "c", "d", "e"].map fun data => .recorded (.text data) := by
  intro p sink moves
  have batching : p.IsBatching 2 := by
    refine ⟨by decide, rfl, by decide, rfl, fun depth isDepth => .inr ?_⟩
    exact Int.le_of_eq (Option.some.inj isDepth)
  obtain ⟨batches, waiting, conserved, -, sized, stopped, runs⟩ :=
    conserves_records batching rfl (moves ++ [.stop])
  obtain ⟨q, t, ran, -, handed⟩ := runs sink {}
  refine ⟨batching, batches, waiting, conserved, stopped rfl, sized, q, t, ran, handed, ?_⟩
  have run : ((Move.makeAll sink (moves ++ [.stop]) (p, {})).2.1.count,
      (Move.makeAll sink (moves ++ [.stop]) (p, {})).2.2.store.log) =
        (4, ["a", "c", "d", "e"].map fun data => .recorded (.text data)) := by rfl
  rw [ran] at run
  exact Prod.mk.inj run

end Publisher
end Stream
end WideColumn
