import WideColumn.Action
import WideColumn.Stream.Queue

/-!
Publishers. Without an interval a publisher writes every record at once, and its faults reach the
caller. With an interval it collects records in a buffer and hands the whole buffer over when the
interval is over or enough records wait; a fault then is nobody's, and the records are gone.
-/
namespace WideColumn.Stream

/-- Where records are written. Both functions tell how many records count as published. Where no
batches are taken, their records are written one at a time. -/
structure Sink (σ : Type) where
  write : Value → Action σ Nat
  writeBatch : Option (List Value → Action σ Nat) := none

structure Publisher where
  name : Value
  destination : Value
  interval : Value := .whole 0
  batchSize : Value := .null
  maxDepth : Value := .whole 100000
  buffer : List Value := []
  isStopped : Bool := false
  count : Nat := 0

/-- What waits for the interval of a publisher to be over. -/
inductive Flusher
  | waiting (interval : Value)
  | done

namespace Publisher

variable {σ : Type}

def create (name destination : Value) (config : OrderedMap String Value) :
    Except Mismatch Publisher :=
  let p : Publisher :=
    { name, destination
      interval := (config.get? "publish_interval").getD (.whole 0)
      batchSize := (config.get? "batch_size").getD .null
      maxDepth := (config.get? "max_queue_depth").getD (.whole 100000) }
  if p.interval.isNumber then .ok p else .error (.notOrdered ">" p.interval.typeName "int")

/-- Whether the publisher collects records. -/
def isBuffered (p : Publisher) : Bool := p.interval.isPositive

/-- What a publisher tells about itself. Of the time at which it last published a record, it tells
whether there is one. -/
def fields (p : Publisher) : List (String × Value) :=
  [("name", p.name), ("destination", p.destination),
   ("publish_interval", p.interval), ("batch_size", p.batchSize),
   ("max_queue_depth", p.maxDepth), ("last_publish", .flag (p.count != 0)),
   ("publish_count", .whole p.count), ("queue_depth", .whole p.buffer.length)]

def update (f : Publisher → Publisher) : Action (Publisher × σ) Unit :=
  .modify fun s => (f s.1, s.2)

/-- Writes, and counts what counts as published. -/
def counted (a : Action σ Nat) : Action (Publisher × σ) Unit := do
  let n ← Action.onPart Prod.snd (fun sink s => (s.1, sink)) a
  update fun p => { p with count := p.count + n }

def writeEach (sink : Sink σ) : List Value → Action (Publisher × σ) Unit
  | [] => pure ()
  | data :: rest => do
    counted (sink.write data)
    writeEach sink rest

def handOver (sink : Sink σ) (batch : List Value) : Action (Publisher × σ) Unit :=
  match sink.writeBatch with
  | none => writeEach sink batch
  | some writeBatch => counted (writeBatch batch)

def flush (sink : Sink σ) : Action (Publisher × σ) Unit := do
  let (p, _) ← Action.get
  update fun p => { p with buffer := [] }
  if p.buffer.isEmpty then return
  let _ ← Action.attempt (handOver sink p.buffer)
  return

/-- Adds a record to the buffer, which is handed over when enough records wait. With a full buffer
the call waits for ever. -/
def enqueue (sink : Sink σ) (data : Value) : Action (Publisher × σ) (Call Unit) := do
  let (p, _) ← Action.get
  let bound ← Action.ofExcept ((Queue.bound p.maxDepth).mapError .mismatch)
  match Queue.push? bound p.buffer data with
  | none => return .blocked
  | some buffer =>
    update fun p => { p with buffer }
    let due ← Action.ofExcept ((Queue.reaches p.batchSize buffer).mapError .mismatch)
    if due then flush sink
    return .returned ()

def publish (sink : Sink σ) (data : Value) : Action (Publisher × σ) (Call Unit) := do
  let (p, _) ← Action.get
  if p.isBuffered then enqueue sink data
  else
    counted (sink.write data)
    return .returned ()

def tick (sink : Sink σ) : Action (Publisher × σ) Flusher := do
  let (p, _) ← Action.get
  if !p.isBuffered || p.isStopped then return .done
  flush sink
  return .waiting p.interval

/-- Ends the waiting for intervals, and hands over what is still in the buffer. -/
def stop (sink : Sink σ) : Action (Publisher × σ) Unit := do
  update fun p => { p with isStopped := true }
  flush sink

end Publisher
end WideColumn.Stream
