import WideColumn.Action
import WideColumn.Stream.Queue

/-!
Subscribers. The worker of a subscriber takes records from a source and puts them into a queue, from
which the caller gets them. Between two of its waiting points the worker runs undisturbed, so its
state is the point at which it waits.
-/
namespace WideColumn.Stream

/-- What a source gives. One that has nothing may have slept first. -/
inductive Fetched
  | record (data : Value)
  | nothing
  | slept (seconds : Value)

/-- Where records come from, with a bound on how many it gives before it has none. -/
structure Source (σ : Type) where
  next : Action σ Fetched
  bound : σ → Nat

/-- Where a worker waits. -/
inductive Worker
  | notStarted
  | waiting (afterFault : Bool)
  | suspended
  | full (record : Value)
  | sleeping (seconds : Value)
  | done

def Worker.isAlive : Worker → Bool
  | notStarted | done => false
  | _ => true

def Worker.stopped : Worker → Worker
  | notStarted => notStarted
  | _ => done

structure Subscriber where
  name : Value
  source : Value
  maxDepth : Value := .whole 100000
  queue : List Value := []
  isSuspended : Bool := false
  worker : Worker := .notStarted
  count : Nat := 0

namespace Subscriber

variable {σ : Type}

def create (name source : Value) (config : OrderedMap String Value) : Subscriber where
  name
  source
  maxDepth := (config.get? "max_depth").getD (.whole 100000)

/-- What a subscriber tells about itself. Of the time at which it last received a record, it tells
whether there is one. -/
def fields (s : Subscriber) : List (String × Value) :=
  [("name", s.name), ("source", s.source), ("max_depth", s.maxDepth),
   ("current_depth", .whole s.queue.length), ("last_receive", .flag (s.count != 0)),
   ("receive_count", .whole s.count), ("suspended", .flag s.isSuspended)]

def waitingAt (s : Subscriber) (worker : Worker) : Subscriber := { s with worker }

def deliver? (s : Subscriber) (bound : Option Nat) (record : Value) : Option Subscriber :=
  (Queue.push? bound s.queue record).map fun queue => { s with queue, count := s.count + 1 }

/-- Delivers a record and goes on, or waits for room. A depth that is no number ends the worker. -/
def offer (record : Value) (goOn : Action (Subscriber × σ) Unit) :
    Action (Subscriber × σ) Unit := do
  let (s, _) ← Action.get
  match Queue.bound s.maxDepth with
  | .error _ => .modify fun s => (s.1.waitingAt .done, s.2)
  | .ok bound =>
    match s.deliver? bound record with
    | some s =>
      .modify fun old => (s, old.2)
      goOn
    | none => .modify fun s => (s.1.waitingAt (.full record), s.2)

def fetch (source : Source σ) : Action (Subscriber × σ) Fetched :=
  Action.onPart Prod.snd (fun source s => (s.1, source)) source.next

def loop (source : Source σ) : (fuel : Nat) → Action (Subscriber × σ) Unit
  | 0 => wait (.waiting false)
  | fuel + 1 => do
    let (s, _) ← Action.get
    if s.isSuspended then wait .suspended
    else
      match ← Action.attempt (fetch source) with
      | .error _ => wait (.waiting true)
      | .ok .nothing => wait (.waiting false)
      | .ok (.slept seconds) => wait (.sleeping seconds)
      | .ok (.record record) => offer record (loop source fuel)
where
  wait (worker : Worker) : Action (Subscriber × σ) Unit :=
    .modify fun s => (s.1.waitingAt worker, s.2)

/-- Lets the worker run until it has to wait. One turn more than the source has records is the one
that finds no record. -/
def work (source : Source σ) : Action (Subscriber × σ) Unit := do
  let (_, s) ← Action.get
  loop source (source.bound s + 1)

/-- Lets the worker go on from where it waits, when the time to wait is over. -/
def goOn (source : Source σ) : Action (Subscriber × σ) Unit := do
  let (s, _) ← Action.get
  match s.worker with
  | .notStarted | .done => return
  | .waiting _ | .suspended => work source
  | .full record => offer record (work source)
  | .sleeping _ => .modify fun s => (s.1.waitingAt (.waiting false), s.2)

/-- Starts the worker, unless it is alive. -/
def start (source : Source σ) : Action (Subscriber × σ) Unit := do
  let (s, _) ← Action.get
  if s.worker.isAlive then return
  work source

/-- Stops the worker. One that waits for room tries once more to deliver its record, which is lost
if there still is none. -/
def stop (s : Subscriber) : Subscriber :=
  let delivered :=
    match s.worker, Queue.bound s.maxDepth with
    | .full record, .ok bound => (s.deliver? bound record).getD s
    | _, _ => s
  { delivered with worker := s.worker.stopped, isSuspended := false }

def suspend (s : Subscriber) : Subscriber := { s with isSuspended := true }

def resume (s : Subscriber) : Subscriber := { s with isSuspended := false }

inductive Patience
  | none
  | limited
  | unlimited
  deriving DecidableEq, Repr

/-- How long a call waits that is asked to wait for a number of seconds: not at all for null, and
for ever for minus one. No other number may be negative. -/
def Patience.ofSeconds (seconds : Value) : Except Fault Patience :=
  match seconds with
  | .null => .ok .none
  | seconds =>
    if seconds.sameKey (.whole (-1)) then .ok .unlimited
    else if seconds.isNegative then .error .negativeTimeout
    else if seconds.isNumber then .ok .limited
    else .error (.mismatch (.notOrdered "<" seconds.typeName "int"))

/-- Takes the oldest record out of the queue. Nothing arrives while a call waits. -/
def take (patience : Patience) (s : Subscriber) : Call (Option Value) × Subscriber :=
  match s.queue with
  | record :: queue => (.returned (some record), { s with queue })
  | [] => (if patience = .unlimited then .blocked else .returned none, s)

end Subscriber
end WideColumn.Stream
