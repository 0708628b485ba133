import WideColumn.Proofs.Action
import WideColumn.Stream.Publisher
import WideColumn.Stream.Subscriber

/-! What publishers and subscribers leave alone. A publisher changes nothing behind its sink but
what writing there changes, and a subscriber nothing behind its source but what the source itself
changes. -/
namespace WideColumn.Stream

open WideColumn.Action (Keeps Obeys)

variable {σ γ : Type} {relation : σ → σ → Prop} {observe : σ → γ}

/-- A sink that obeys a relation, however it is written to. -/
structure Sink.IsObeying (relation : σ → σ → Prop) (sink : Sink σ) : Prop where
  order : Obeys.IsOrder relation
  write : ∀ data, Obeys relation (sink.write data)
  writeBatch : ∀ writeBatch, sink.writeBatch = some writeBatch →
    ∀ batch, Obeys relation (writeBatch batch)

/-- A sink that leaves an observation alone, however it is written to. -/
structure Sink.IsKeeping (observe : σ → γ) (sink : Sink σ) : Prop where
  write : ∀ data, Keeps observe (sink.write data)
  writeBatch : ∀ writeBatch, sink.writeBatch = some writeBatch →
    ∀ batch, Keeps observe (writeBatch batch)

theorem Sink.IsKeeping.isObeying {sink : Sink σ} (h : sink.IsKeeping observe) :
    sink.IsObeying fun s t => observe t = observe s :=
  ⟨⟨fun _ => rfl, fun first second => second.trans first⟩, h.write, h.writeBatch⟩

namespace Publisher

/-- A relation between what is behind the sink of a publisher. -/
def Behind (relation : σ → σ → Prop) (s t : Publisher × σ) : Prop := relation s.2 t.2

/-- What is observed behind the sink of a publisher. -/
def behind (observe : σ → γ) (s : Publisher × σ) : γ := observe s.2

theorem behind_order (order : Obeys.IsOrder relation) : Obeys.IsOrder (Behind relation) :=
  ⟨fun s => order.refl s.2, order.trans⟩

variable {sink : Sink σ}

theorem update_obeys (order : Obeys.IsOrder relation) (f : Publisher → Publisher) :
    Obeys (Behind relation) (update f : Action (Publisher × σ) Unit) := fun s => order.refl s.2

theorem counted_obeys (order : Obeys.IsOrder relation) {a : Action σ Nat} (h : Obeys relation a) :
    Obeys (Behind relation) (counted a) :=
  .bind (behind_order order) (fun s => h s.2) fun _ => update_obeys order _

theorem writeEach_obeys (h : sink.IsObeying relation) (batch : List Value) :
    Obeys (Behind relation) (writeEach sink batch) := by
  induction batch with
  | nil => exact fun s => h.order.refl s.2
  | cons data rest ih =>
    exact .bind (behind_order h.order) (counted_obeys h.order (h.write data)) fun _ => ih

theorem handOver_obeys (h : sink.IsObeying relation) (batch : List Value) :
    Obeys (Behind relation) (handOver sink batch) := by
  unfold handOver
  cases taken : sink.writeBatch with
  | none => exact writeEach_obeys h batch
  | some writeBatch => exact counted_obeys h.order (h.writeBatch writeBatch taken batch)

theorem flush_obeys (h : sink.IsObeying relation) : Obeys (Behind relation) (flush sink) := by
  have order := behind_order h.order
  refine .after_reading order.refl .get fun s => ?_
  refine .bind order (update_obeys h.order _) fun _ => ?_
  split
  · exact fun s => h.order.refl s.2
  · exact .then_reading (handOver_obeys h _) fun _ => .pure ()

theorem enqueue_obeys (h : sink.IsObeying relation) (data : Value) :
    Obeys (Behind relation) (enqueue sink data) := by
  have order := behind_order h.order
  refine .after_reading order.refl .get fun s => ?_
  refine .after_reading order.refl (.ofExcept _) fun bound => ?_
  cases Queue.push? bound s.1.buffer data with
  | none => exact fun s => h.order.refl s.2
  | some buffer =>
    refine .bind order (update_obeys h.order _) fun _ => ?_
    refine .after_reading order.refl (.ofExcept _) fun due => ?_
    cases due with
    | false => exact fun s => h.order.refl s.2
    | true => exact .then_reading (flush_obeys h) fun _ => .pure _

theorem publish_obeys (h : sink.IsObeying relation) (data : Value) :
    Obeys (Behind relation) (publish sink data) := by
  refine .after_reading (behind_order h.order).refl .get fun s => ?_
  dsimp only
  split
  · exact enqueue_obeys h data
  · exact .then_reading (counted_obeys h.order (h.write data)) fun _ => .pure _

theorem tick_obeys (h : sink.IsObeying relation) : Obeys (Behind relation) (tick sink) := by
  refine .after_reading (behind_order h.order).refl .get fun s => ?_
  dsimp only
  split
  · exact fun s => h.order.refl s.2
  · exact .then_reading (flush_obeys h) fun _ => .pure _

theorem stop_obeys (h : sink.IsObeying relation) : Obeys (Behind relation) (stop sink) :=
  .bind (behind_order h.order) (update_obeys h.order _) fun _ => flush_obeys h

theorem flush_keeps (h : sink.IsKeeping observe) : Keeps (behind observe) (flush sink) :=
  flush_obeys h.isObeying

theorem publish_keeps (h : sink.IsKeeping observe) (data : Value) :
    Keeps (behind observe) (publish sink data) := publish_obeys h.isObeying data

theorem tick_keeps (h : sink.IsKeeping observe) : Keeps (behind observe) (tick sink) :=
  tick_obeys h.isObeying

theorem stop_keeps (h : sink.IsKeeping observe) : Keeps (behind observe) (stop sink) :=
  stop_obeys h.isObeying

end Publisher

namespace Subscriber

/-- What is observed behind the source of a subscriber. -/
def behind (observe : σ → γ) (s : Subscriber × σ) : γ := observe s.2

variable {source : Source σ}

theorem fetch_keeps (h : Keeps observe source.next) : Keeps (behind observe) (fetch source) :=
  .onPart (fun _ => rfl) (fun _ _ => rfl) h

theorem offer_keeps (record : Value) {goOn : Action (Subscriber × σ) Unit}
    (h : Keeps (behind observe) goOn) : Keeps (behind observe) (offer record goOn) := by
  refine .bind .get fun s => ?_
  dsimp only
  split
  · exact .modify fun _ => rfl
  · split
    · exact .bind (.modify fun _ => rfl) fun _ => h
    · exact .modify fun _ => rfl

theorem loop_keeps (h : Keeps observe source.next) (fuel : Nat) :
    Keeps (behind observe) (loop source fuel) := by
  have wait (worker : Worker) :
      Keeps (behind observe) (loop.wait worker : Action (Subscriber × σ) Unit) :=
    .modify fun _ => rfl
  induction fuel with
  | zero => exact wait _
  | succ fuel ih =>
    refine .bind .get fun s => ?_
    dsimp only
    split
    · exact wait _
    · refine .bind (.attempt (fetch_keeps h)) fun fetched => ?_
      match fetched with
      | .error _ => exact wait _
      | .ok .nothing => exact wait _
      | .ok (.slept _) => exact wait _
      | .ok (.record record) => exact offer_keeps record ih

theorem work_keeps (h : Keeps observe source.next) : Keeps (behind observe) (work source) :=
  .bind .get fun _ => loop_keeps h _

theorem goOn_keeps (h : Keeps observe source.next) : Keeps (behind observe) (goOn source) := by
  refine .bind .get fun s => ?_
  dsimp only
  split
  · exact .pure ()
  · exact .pure ()
  · exact work_keeps h
  · exact work_keeps h
  · exact offer_keeps _ (work_keeps h)
  · exact .modify fun _ => rfl

theorem start_keeps (h : Keeps observe source.next) : Keeps (behind observe) (start source) := by
  refine .bind .get fun s => ?_
  dsimp only
  split
  · exact .pure ()
  · exact work_keeps h

end Subscriber
end WideColumn.Stream
