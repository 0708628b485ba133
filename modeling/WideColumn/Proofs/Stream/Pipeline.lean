import Mathlib.Data.List.Basic
import WideColumn.Proofs.Action
import WideColumn.Stream.TableFeed

/-! The way of the records of a subscriber, from its source to its caller: the worker takes them
from the source and puts them into the queue, or holds one for which there is no room. A record that
is held when the subscriber is stopped is lost if there still is no room for it; no other record is
lost, none comes twice, and all come in the order of the source. -/
namespace WideColumn.Stream

variable {σ : Type}

/-- A source from which a worker takes so many records, and one more, before it waits. -/
def Source.upTo (source : Source σ) (n : Nat) : Source σ := { source with bound := fun _ => n }

/-- A source that notes the records that it gives. -/
def Source.noting (source : Source σ) : Source (σ × List Value) where
  bound s := source.bound s.1
  next := do
    let fetched ← Action.onPart Prod.fst (fun x s => (x, s.2)) source.next
    match fetched with
    | .record data => .modify fun s => (s.1, s.2 ++ [data])
    | .nothing | .slept _ => pure ()
    return fetched

/-- What a call has handed out. -/
def Call.handed : Call (Option Value) → List Value
  | .returned record => record.toList
  | .blocked => []

namespace Subscriber

/-- The record for which the worker waits for room. -/
def held (s : Subscriber) : List Value :=
  match s.worker with
  | .full record => [record]
  | .notStarted | .waiting _ | .suspended | .sleeping _ | .done => []

/-- Whether there is room for a record. A queue whose depth is no number has none. -/
def admits (s : Subscriber) (record : Value) : Bool :=
  match Queue.bound s.maxDepth with
  | .ok bound => (s.deliver? bound record).isSome
  | .error _ => false

/-- The record that is lost if the subscriber is stopped: the one that is held, without room. -/
def dropped (s : Subscriber) : List Value := s.held.filter (!s.admits ·)

/-! Noting the records of a source changes nothing else. -/

/-- A subscriber and its source, without what the source has noted. -/
def unnoted (t : Subscriber × σ × List Value) : Subscriber × σ := (t.1, t.2.1)

/-- An action on a noting source that does what another one does on the source itself. -/
def Mirrors {α : Type} (noting : Action (Subscriber × σ × List Value) α)
    (plain : Action (Subscriber × σ) α) : Prop :=
  ∀ t, plain (unnoted t) = ((noting t).1, unnoted (noting t).2)

namespace Mirrors

variable {α β : Type}

theorem get_bind {f : Subscriber × σ × List Value → Action (Subscriber × σ × List Value) α}
    {g : Subscriber × σ → Action (Subscriber × σ) α}
    (next : ∀ t, Mirrors (f t) (g (unnoted t))) :
    Mirrors (Action.get >>= f) (Action.get >>= g) := Action.Mirrors.get_bind next

theorem pure (x : α) : Mirrors (Pure.pure x : Action (Subscriber × σ × List Value) α)
    (Pure.pure x) := Action.Mirrors.pure x

theorem become (f : Subscriber → Subscriber) :
    Mirrors (.modify fun t : Subscriber × σ × List Value => (f t.1, t.2))
      (.modify fun t => (f t.1, t.2)) := fun _ => rfl

theorem wait (worker : Worker) :
    Mirrors (loop.wait worker : Action (Subscriber × σ × List Value) Unit) (loop.wait worker) :=
  become (·.waitingAt worker)

theorem bind {a : Action (Subscriber × σ × List Value) α} {b : Action (Subscriber × σ) α}
    {f : α → Action (Subscriber × σ × List Value) β} {g : α → Action (Subscriber × σ) β}
    (first : Mirrors a b) (next : ∀ x, Mirrors (f x) (g x)) : Mirrors (a >>= f) (b >>= g) :=
  Action.Mirrors.bind first next

theorem attempt {a : Action (Subscriber × σ × List Value) α} {b : Action (Subscriber × σ) α}
    (h : Mirrors a b) : Mirrors (Action.attempt a) (Action.attempt b) := Action.Mirrors.attempt h

theorem subscriber {a : Action (Subscriber × σ × List Value) α} {b : Action (Subscriber × σ) α}
    (h : Mirrors a b) (s : Subscriber) (x : σ) (given : List Value) :
    (b (s, x)).2.1 = (a (s, x, given)).2.1 :=
  congrArg (·.2.1) (h (s, x, given))

end Mirrors

variable {source : Source σ}

/-- What a noting source comes to. -/
theorem noting_next (source : Source σ) (x : σ) (given : List Value) :
    source.noting.next (x, given) = ((source.next x).1, (source.next x).2,
      given ++ match (source.next x).1 with
        | .ok (.record data) => [data]
        | .ok .nothing | .ok (.slept _) | .error _ => []) := by
  have part : Action.onPart Prod.fst (fun x (s : σ × List Value) => (x, s.2)) source.next
      (x, given) = ((source.next x).1, (source.next x).2, given) := rfl
  unfold Source.noting
  dsimp only
  rcases ran : source.next x with ⟨e | fetched, x'⟩
  · rw [ran] at part
    rw [Action.bind_of_error part, List.append_nil]
  · rw [ran] at part
    rw [Action.bind_of_ok part]
    cases fetched with
    | record data => rfl
    | nothing => rw [List.append_nil]; rfl
    | slept seconds => rw [List.append_nil]; rfl

theorem fetch_mirrors : Mirrors (fetch source.noting) (fetch source) := by
  rintro ⟨s, x, given⟩
  unfold fetch Action.onPart
  rw [noting_next]
  rfl

theorem offer_mirrors (record : Value) {a : Action (Subscriber × σ × List Value) Unit}
    {b : Action (Subscriber × σ) Unit} (h : Mirrors a b) :
    Mirrors (offer record a) (offer record b) := by
  refine .get_bind fun t => ?_
  dsimp only [unnoted]
  cases Queue.bound t.1.maxDepth with
  | error e => exact .wait .done
  | ok bound =>
    dsimp only
    cases t.1.deliver? bound record with
    | none => exact .wait (.full record)
    | some s => exact .bind (.become fun _ => s) fun _ => h

theorem loop_mirrors (fuel : Nat) : Mirrors (loop source.noting fuel) (loop source fuel) := by
  induction fuel with
  | zero => exact .wait _
  | succ fuel ih =>
    refine .get_bind fun t => ?_
    dsimp only [unnoted]
    split
    · exact .wait _
    · refine .bind (.attempt fetch_mirrors) fun fetched => ?_
      match fetched with
      | .error _ => exact .wait _
      | .ok .nothing => exact .wait _
      | .ok (.slept _) => exact .wait _
      | .ok (.record record) => exact offer_mirrors record ih

theorem work_mirrors : Mirrors (work source.noting) (work source) :=
  .get_bind fun _ => loop_mirrors _

theorem start_mirrors : Mirrors (start source.noting) (start source) := by
  refine .get_bind fun t => ?_
  dsimp only [unnoted]
  split
  · exact .pure ()
  · exact work_mirrors

theorem goOn_mirrors : Mirrors (goOn source.noting) (goOn source) := by
  refine .get_bind fun t => ?_
  dsimp only [unnoted]
  split
  · exact .pure ()
  · exact .pure ()
  · exact work_mirrors
  · exact work_mirrors
  · exact offer_mirrors _ work_mirrors
  · exact .wait _

/-! What the worker does with the records that it takes. -/

/-- Those of some records that come into the queue. A depth that is no number lets none in. -/
def arriving (s : Subscriber) (records : List Value) : List Value :=
  if s.maxDepth.isNumber then records else []

/-- What has become of a subscriber whose worker has taken records, where the records that the
source had given before are known. -/
structure Worked (before records : List Value) (s : Subscriber)
    (t : Subscriber × σ × List Value) : Prop where
  given : t.2.2 = before ++ records ++ t.1.held
  queue : t.1.queue = s.queue ++ s.arriving records
  count : t.1.count = s.count + (s.arriving records).length
  depth : t.1.maxDepth = s.maxDepth

theorem deliver?_eq_some {s s' : Subscriber} {bound : Option Nat} {record : Value}
    (h : s.deliver? bound record = some s') :
    s' = { s with queue := s.queue ++ [record], count := s.count + 1 } := by
  obtain ⟨queue, pushed, rfl⟩ := Option.map_eq_some_iff.mp h
  rw [Queue.push?_eq_some pushed]

theorem bound_isOk (depth : Value) : (Queue.bound depth).isOk = depth.isNumber := by
  unfold Queue.bound
  cases depth.isNumber with
  | true => rfl
  | false => rfl

theorem arriving_nil (s : Subscriber) : s.arriving [] = [] := ite_self []

/-- The worker waits, and holds no record. -/
theorem Worked.idle {s : Subscriber} {worker : Worker} (x : σ) (given : List Value)
    (none : (s.waitingAt worker).held = []) :
    Worked given [] s (s.waitingAt worker, x, given) where
  given := by rw [none, List.append_nil, List.append_nil]
  queue := by rw [arriving_nil, List.append_nil]; rfl
  count := by rw [arriving_nil]; rfl
  depth := rfl

/-- A record that has come into the queue, and what the worker has done after that. -/
theorem Worked.delivered {s : Subscriber} {before records : List Value} {record : Value}
    {t : Subscriber × σ × List Value} (numbered : s.maxDepth.isNumber)
    (later : Worked (before ++ [record]) records
      { s with queue := s.queue ++ [record], count := s.count + 1 } t) :
    Worked before (record :: records) s t where
  given := by rw [later.given, List.append_assoc before]; rfl
  queue := by
    rw [later.queue, arriving, arriving, if_pos numbered, if_pos numbered, List.append_assoc]
    rfl
  count := by
    rw [later.count, arriving, arriving, if_pos numbered, if_pos numbered, List.length_cons]
    exact Nat.add_right_comm s.count 1 records.length
  depth := later.depth

/-- A record is offered that the source has given last. -/
theorem offer_worked {goOn : Action (Subscriber × σ × List Value) Unit}
    (later : ∀ s x given, ∃ records, Worked given records s (goOn (s, x, given)).2)
    (record : Value) (s : Subscriber) (x : σ) (before : List Value) :
    ∃ records, Worked before records s (offer record goOn (s, x, before ++ [record])).2 := by
  have isOk := bound_isOk s.maxDepth
  unfold offer
  rw [Action.get_bind]
  dsimp only
  cases bounded : Queue.bound s.maxDepth with
  | error e =>
    rw [bounded] at isOk
    have unnumbered : s.maxDepth.isNumber = false := isOk.symm
    refine ⟨[record], (List.append_nil _).symm, ?_, ?_, rfl⟩
    · rw [arriving, unnumbered]
      exact (List.append_nil _).symm
    · rw [arriving, unnumbered]
      rfl
  | ok bound =>
    rw [bounded] at isOk
    have numbered : s.maxDepth.isNumber := isOk.symm
    dsimp only
    cases room : s.deliver? bound record with
    | none =>
      refine ⟨[], ?_, ?_, ?_, rfl⟩
      · show before ++ [record] = before ++ [] ++ [record]
        rw [List.append_nil]
      · rw [arriving_nil, List.append_nil]
        rfl
      · rw [arriving_nil]
        rfl
    | some s' =>
      obtain rfl := deliver?_eq_some room
      obtain ⟨records, worked⟩ := later
        { s with queue := s.queue ++ [record], count := s.count + 1 } x (before ++ [record])
      exact ⟨record :: records, worked.delivered numbered⟩

theorem loop_worked (source : Source σ) (fuel : Nat) (s : Subscriber) (x : σ)
    (given : List Value) :
    ∃ records, Worked given records s (loop source.noting fuel (s, x, given)).2 := by
  induction fuel generalizing s x given with
  | zero => exact ⟨[], .idle x given rfl⟩
  | succ fuel ih =>
    unfold loop
    rw [Action.get_bind]
    dsimp only
    split
    · exact ⟨[], .idle x given rfl⟩
    · have fetched : Action.attempt (fetch source.noting) (s, x, given) =
          (.ok (source.noting.next (x, given)).1, s, (source.noting.next (x, given)).2) := rfl
      rw [Action.bind_of_ok fetched, noting_next]
      rcases source.next x with ⟨e | record | - | seconds, x'⟩
      · rw [List.append_nil]
        exact ⟨[], .idle x' given rfl⟩
      · exact offer_worked ih record s x' given
      · rw [List.append_nil]
        exact ⟨[], .idle x' given rfl⟩
      · rw [List.append_nil]
        exact ⟨[], .idle x' given rfl⟩

theorem work_worked (source : Source σ) (s : Subscriber) (x : σ) (given : List Value) :
    ∃ records, Worked given records s (work source.noting (s, x, given)).2 :=
  loop_worked source _ s x given

/-! The account of all records. -/

/-- Those of some records that have come into the queue. The other ones are lost. -/
def arrivedOf (fates : List (Value × Bool)) : List Value := (fates.filter (·.2)).map (·.1)

def lostOf (fates : List (Value × Bool)) : List Value := (fates.filter (!·.2)).map (·.1)

theorem arrivedOf_append (fates more : List (Value × Bool)) :
    arrivedOf (fates ++ more) = arrivedOf fates ++ arrivedOf more := by
  rw [arrivedOf, List.filter_append, List.map_append]
  rfl

theorem lostOf_append (fates more : List (Value × Bool)) :
    lostOf (fates ++ more) = lostOf fates ++ lostOf more := by
  rw [lostOf, List.filter_append, List.map_append]
  rfl

/-- The same has become of some records. -/
def alike (records : List Value) (arrived : Bool) : List (Value × Bool) :=
  records.map fun record => (record, arrived)

theorem map_fst_alike (records : List Value) (arrived : Bool) :
    (alike records arrived).map (·.1) = records := by
  rw [alike, List.map_map]
  exact List.map_id records

theorem arrivedOf_alike (records : List Value) (arrived : Bool) :
    arrivedOf (alike records arrived) = if arrived then records else [] := by
  cases arrived with
  | true => simp [arrivedOf, alike, List.filter_map, Function.comp_def]
  | false => simp [arrivedOf, alike]

theorem lostOf_alike (records : List Value) (arrived : Bool) :
    lostOf (alike records arrived) = if arrived then [] else records := by
  cases arrived with
  | true => simp [lostOf, alike]
  | false => simp [lostOf, alike, List.filter_map, Function.comp_def]

theorem held_eq (s : Subscriber) : s.held = s.held.filter s.admits ++ s.dropped := by
  unfold dropped held
  cases s.worker with
  | full record => cases admitted : s.admits record <;> simp [admitted]
  | _ => rfl

theorem admits_of_unnumbered {s : Subscriber} (unnumbered : s.maxDepth.isNumber = false) :
    s.admits = fun _ => false := by
  funext record
  have isOk := bound_isOk s.maxDepth
  rw [unnumbered] at isOk
  unfold admits
  cases bounded : Queue.bound s.maxDepth with
  | error e => rfl
  | ok bound =>
    rw [bounded] at isOk
    cases isOk

theorem admits_of_bound {s : Subscriber} {bound : Option Nat} {record : Value}
    (bounded : Queue.bound s.maxDepth = .ok bound) :
    s.admits record = (s.deliver? bound record).isSome := by
  unfold admits
  rw [bounded]

theorem stop_eq (s : Subscriber) : s.stop = { s with
    queue := s.queue ++ s.held.filter s.admits
    count := s.count + (s.held.filter s.admits).length
    worker := s.worker.stopped
    isSuspended := false } := by
  unfold stop held
  cases worker : s.worker with
  | full record =>
    cases bounded : Queue.bound s.maxDepth with
    | error e =>
      have none : s.admits record = false := by rw [admits, bounded]
      simp [none]
    | ok bound =>
      cases room : s.deliver? bound record with
      | none =>
        have none : s.admits record = false := by
          rw [admits_of_bound bounded, room]
          rfl
        simp [none, room]
      | some s' =>
        obtain rfl := deliver?_eq_some room
        have some : s.admits record = true := by
          rw [admits_of_bound bounded, room]
          rfl
        simp [some, room]
  | _ => simp

theorem stop_held (s : Subscriber) : s.stop.held = [] := by
  rw [stop_eq]
  unfold held
  cases s.worker <;> rfl

/-- What has become of the records of a subscriber: those given are accounted for, apart from the
one that is held; the ones that have come into the queue have been handed out or are in it. -/
structure Conserved (fates : List (Value × Bool)) (s : Subscriber)
    (given handed dropped : List Value) : Prop where
  given : given = fates.map (·.1) ++ s.held
  arrived : arrivedOf fates = handed ++ s.queue
  count : s.count = (arrivedOf fates).length
  lost : s.maxDepth.isNumber → lostOf fates = dropped
  none : s.maxDepth.isNumber = false → arrivedOf fates = []

namespace Conserved

variable {fates : List (Value × Bool)} {s : Subscriber} {given handed dropped : List Value}

/-- The worker has taken records, while none was held that has not been given back before. -/
theorem worked {before records : List Value} {t : Subscriber × σ × List Value}
    (h : Conserved fates s given handed dropped) (isBefore : before = fates.map (·.1))
    (worked : Worked before records s t) :
    Conserved (fates ++ alike records s.maxDepth.isNumber) t.1 t.2.2 handed dropped where
  given := by rw [worked.given, isBefore, List.map_append, map_fst_alike]
  arrived := by
    rw [arrivedOf_append, arrivedOf_alike, h.arrived, worked.queue, List.append_assoc]
    rfl
  count := by
    rw [arrivedOf_append, arrivedOf_alike, worked.count, h.count, List.length_append]
    rfl
  lost numbered := by
    rw [worked.depth] at numbered
    rw [lostOf_append, lostOf_alike, h.lost numbered, if_pos numbered, List.append_nil]
  none unnumbered := by
    rw [worked.depth] at unnumbered
    rw [arrivedOf_append, arrivedOf_alike, h.none unnumbered, unnumbered]
    rfl

/-- Nothing becomes of the records while none is held, or the same one. -/
theorem waiting {s' : Subscriber} (h : Conserved fates s given handed dropped)
    (held : s'.held = s.held) (queue : s'.queue = s.queue) (count : s'.count = s.count)
    (depth : s'.maxDepth = s.maxDepth) : Conserved fates s' given handed dropped where
  given := held ▸ h.given
  arrived := queue ▸ h.arrived
  count := count ▸ h.count
  lost numbered := h.lost (depth ▸ numbered)
  none unnumbered := h.none (depth ▸ unnumbered)

/-- Stopping puts a held record into the queue, or loses it. -/
theorem stopped (h : Conserved fates s given handed dropped) :
    Conserved (fates ++ alike (s.held.filter s.admits) true ++ alike s.dropped false) s.stop given
      handed (dropped ++ s.dropped) where
  given := by
    rw [List.map_append, List.map_append, map_fst_alike, map_fst_alike, stop_held,
      List.append_nil, List.append_assoc, ← held_eq]
    exact h.given
  arrived := by
    rw [arrivedOf_append, arrivedOf_append, arrivedOf_alike, arrivedOf_alike, h.arrived, stop_eq]
    simp
  count := by
    rw [arrivedOf_append, arrivedOf_append, arrivedOf_alike, arrivedOf_alike, stop_eq, h.count]
    simp
  lost numbered := by
    rw [stop_eq] at numbered
    rw [lostOf_append, lostOf_append, lostOf_alike, lostOf_alike, h.lost numbered]
    simp
  none unnumbered := by
    rw [stop_eq] at unnumbered
    change s.maxDepth.isNumber = false at unnumbered
    rw [arrivedOf_append, arrivedOf_append, arrivedOf_alike, arrivedOf_alike, h.none unnumbered,
      admits_of_unnumbered unnumbered]
    simp

/-- The oldest record of the queue is handed out. -/
theorem taken (h : Conserved fates s given handed dropped) (patience : Patience) :
    Conserved fates (s.take patience).2 given (handed ++ (s.take patience).1.handed) dropped := by
  unfold take
  cases queued : s.queue with
  | nil =>
    have none : (if patience = .unlimited then .blocked else .returned Option.none :
        Call (Option Value)).handed = [] := by
      split <;> rfl
    rw [none, List.append_nil]
    exact h
  | cons record rest =>
    refine ⟨h.given, ?_, h.count, h.lost, h.none⟩
    rw [h.arrived, queued, List.append_assoc]
    rfl

theorem started {source : Source σ} {y : σ} (h : Conserved fates s given handed dropped) :
    ∃ fates, Conserved fates (start source.noting (s, y, given)).2.1
      (start source.noting (s, y, given)).2.2.2 handed dropped := by
  unfold start
  rw [Action.get_bind]
  dsimp only
  cases alive : s.worker.isAlive with
  | true => exact ⟨fates, h⟩
  | false =>
    rw [if_neg Bool.false_ne_true]
    have none : s.held = [] := by
      unfold held
      cases worker : s.worker with
      | full record =>
        rw [worker] at alive
        cases alive
      | _ => rfl
    have isBefore : given = fates.map (·.1) := by rw [h.given, none, List.append_nil]
    obtain ⟨records, worked⟩ := work_worked source s y given
    exact ⟨_, h.worked isBefore worked⟩

theorem goneOn {source : Source σ} {y : σ} (h : Conserved fates s given handed dropped) :
    ∃ fates, Conserved fates (goOn source.noting (s, y, given)).2.1
      (goOn source.noting (s, y, given)).2.2.2 handed dropped := by
  have isGiven := h.given
  unfold goOn
  rw [Action.get_bind]
  dsimp only
  unfold held at isGiven
  cases worker : s.worker with
  | notStarted => exact ⟨fates, h⟩
  | done => exact ⟨fates, h⟩
  | sleeping seconds =>
    have none : s.held = [] := by rw [held, worker]
    exact ⟨fates, h.waiting none.symm rfl rfl rfl⟩
  | waiting afterFault =>
    rw [worker, List.append_nil] at isGiven
    obtain ⟨records, worked⟩ := work_worked source s y given
    exact ⟨_, h.worked isGiven worked⟩
  | suspended =>
    rw [worker, List.append_nil] at isGiven
    obtain ⟨records, worked⟩ := work_worked source s y given
    exact ⟨_, h.worked isGiven worked⟩
  | full record =>
    rw [worker] at isGiven
    obtain ⟨records, worked⟩ := offer_worked (work_worked source) record s y (fates.map (·.1))
    rw [← isGiven] at worked
    exact ⟨_, h.worked rfl worked⟩

end Conserved

/-- A subscriber and its source on their way: the records that the source has given, those that have
been handed out, and those that were dropped when the subscriber was stopped. A worker may wait
after any number of records. -/
inductive Underway (source : Source σ) (first : Subscriber) (x : σ) :
    Subscriber → σ → (given handed dropped : List Value) → Prop
  | fresh : Underway source first x first x [] [] []
  | start {s : Subscriber} {y : σ} {given handed dropped : List Value} (n : Nat)
      (before : Underway source first x s y given handed dropped) :
      Underway source first x (start (source.upTo n) (s, y)).2.1 (start (source.upTo n) (s, y)).2.2
        (start (source.upTo n).noting (s, y, given)).2.2.2 handed dropped
  | goOn {s : Subscriber} {y : σ} {given handed dropped : List Value} (n : Nat)
      (before : Underway source first x s y given handed dropped) :
      Underway source first x (goOn (source.upTo n) (s, y)).2.1 (goOn (source.upTo n) (s, y)).2.2
        (goOn (source.upTo n).noting (s, y, given)).2.2.2 handed dropped
  | take {s : Subscriber} {y : σ} {given handed dropped : List Value} (patience : Patience)
      (before : Underway source first x s y given handed dropped) :
      Underway source first x (s.take patience).2 y given
        (handed ++ (s.take patience).1.handed) dropped
  | suspend {s : Subscriber} {y : σ} {given handed dropped : List Value}
      (before : Underway source first x s y given handed dropped) :
      Underway source first x s.suspend y given handed dropped
  | resume {s : Subscriber} {y : σ} {given handed dropped : List Value}
      (before : Underway source first x s y given handed dropped) :
      Underway source first x s.resume y given handed dropped
  | stop {s : Subscriber} {y : σ} {given handed dropped : List Value}
      (before : Underway source first x s y given handed dropped) :
      Underway source first x s.stop y given handed (dropped ++ s.dropped)

theorem Underway.conserved {source : Source σ} {first s : Subscriber} {x y : σ}
    {given handed dropped : List Value} (fresh : Conserved [] first [] [] [])
    (underway : Underway source first x s y given handed dropped) :
    ∃ fates, Conserved fates s given handed dropped := by
  induction underway with
  | fresh => exact ⟨[], fresh⟩
  | @start s y given handed dropped n before ih =>
    obtain ⟨fates, h⟩ := ih
    rw [start_mirrors.subscriber s y given]
    exact h.started
  | @goOn s y given handed dropped n before ih =>
    obtain ⟨fates, h⟩ := ih
    rw [goOn_mirrors.subscriber s y given]
    exact h.goneOn
  | take patience before ih =>
    obtain ⟨fates, h⟩ := ih
    exact ⟨fates, h.taken patience⟩
  | suspend before ih =>
    obtain ⟨fates, h⟩ := ih
    exact ⟨fates, h.waiting rfl rfl rfl rfl⟩
  | resume before ih =>
    obtain ⟨fates, h⟩ := ih
    exact ⟨fates, h.waiting rfl rfl rfl rfl⟩
  | stop before ih =>
    obtain ⟨fates, h⟩ := ih
    exact ⟨_, h.stopped⟩

end Subscriber
end WideColumn.Stream
