import WideColumn.Proofs.Stream.Keeping

/-! Noting what goes through the sink of a publisher. A publisher does the same with a sink that
takes notes, and whatever comes of each write and is noted of it comes of all that is done with the
publisher. -/
namespace WideColumn.Stream

open WideColumn.Action (Obeys)

variable {σ τ α β : Type}

/-- An action that notes something first. -/
def noted (notes : σ → List τ) (a : Action σ α) : Action (List τ × σ) α := fun s =>
  ((a s.2).1, s.1 ++ notes s.2, (a s.2).2)

/-- A sink that takes notes of every batch before it is written. -/
def Sink.noting (notes : List Value → σ → List τ) (sink : Sink σ) : Sink (List τ × σ) where
  write data := noted (notes [data]) (sink.write data)
  writeBatch := sink.writeBatch.map fun writeBatch batch => noted (notes batch) (writeBatch batch)

/-- A sink each of whose writes leaves the trace that is noted of it leaves the trace of all notes,
as far as they go on from the ones before. -/
theorem Sink.noting_isObeying {relation : List τ → σ → σ → Prop}
    (trace : Action.IsTrace relation) {notes : List Value → σ → List τ} {sink : Sink σ}
    (write : ∀ data s, relation (notes [data] s) s (sink.write data s).2)
    (writeBatch : ∀ writeBatch, sink.writeBatch = some writeBatch →
      ∀ batch s, relation (notes batch s) s (writeBatch batch s).2) :
    (sink.noting notes).IsObeying fun s t => ∃ more, t.1 = s.1 ++ more ∧ relation more s.2 t.2 where
  order := by
    refine ⟨fun s => ⟨[], (List.append_nil _).symm, trace.refl s.2⟩, ?_⟩
    rintro s t u ⟨more, noted, went⟩ ⟨later, noted', went'⟩
    refine ⟨more ++ later, ?_, trace.trans went went'⟩
    rw [noted', noted, List.append_assoc]
  write data s := ⟨notes [data] s.2, rfl, write data s.2⟩
  writeBatch noting taken batch s := by
    obtain ⟨plain, isPlain, rfl⟩ := Option.map_eq_some_iff.mp taken
    exact ⟨notes batch s.2, rfl, writeBatch plain isPlain batch s.2⟩

namespace Publisher

/-- A publisher and what is behind its sink, without the notes. -/
def unnoted (s : Publisher × List τ × σ) : Publisher × σ := (s.1, s.2.2)

/-- What is done with a publisher through a sink: it obeys what the sink obeys, and does the same
with a sink that takes notes. -/
structure IsThrough (a : ∀ {σ : Type}, Sink σ → Action (Publisher × σ) α) : Prop where
  obeys : ∀ {σ : Type} {relation : σ → σ → Prop} {sink : Sink σ}, sink.IsObeying relation →
    Obeys (Behind relation) (a sink)
  mirrors : ∀ {σ τ : Type} (notes : List Value → σ → List τ) (sink : Sink σ),
    Action.Mirrors unnoted (a (sink.noting notes)) (a sink)

variable (notes : List Value → σ → List τ) (sink : Sink σ)

theorem update_mirrors (f : Publisher → Publisher) :
    Action.Mirrors (unnoted : Publisher × List τ × σ → Publisher × σ) (update f) (update f) :=
  fun _ => rfl

theorem counted_mirrors (notes : σ → List τ) (a : Action σ Nat) :
    Action.Mirrors unnoted (counted (noted notes a)) (counted a) :=
  .bind (fun _ => rfl) fun _ => update_mirrors _

theorem writeEach_mirrors (batch : List Value) :
    Action.Mirrors unnoted (writeEach (sink.noting notes) batch) (writeEach sink batch) := by
  induction batch with
  | nil => exact .pure ()
  | cons data rest ih => exact .bind (counted_mirrors _ _) fun _ => ih

theorem handOver_mirrors (batch : List Value) :
    Action.Mirrors unnoted (handOver (sink.noting notes) batch) (handOver sink batch) := by
  have each := writeEach_mirrors notes sink batch
  obtain ⟨write, writeBatch⟩ := sink
  cases writeBatch with
  | none => exact each
  | some writeBatch => exact counted_mirrors _ _

theorem flush_isThrough : IsThrough flush where
  obeys := flush_obeys
  mirrors notes sink := by
    refine .get_bind fun s => .bind (update_mirrors _) fun _ => ?_
    split
    · exact .pure ()
    · exact .bind (.attempt (handOver_mirrors notes sink _)) fun _ => .pure ()

theorem enqueue_mirrors (data : Value) :
    Action.Mirrors unnoted (enqueue (sink.noting notes) data) (enqueue sink data) := by
  refine .get_bind fun s => .bind (.ofExcept _) fun bound => ?_
  dsimp only [unnoted]
  cases Queue.push? bound s.1.buffer data with
  | none => exact .pure _
  | some buffer =>
    refine .bind (update_mirrors _) fun _ => .bind (.ofExcept _) fun due => ?_
    cases due with
    | false => exact .pure _
    | true => exact .bind (flush_isThrough.mirrors notes sink) fun _ => .pure _

theorem publish_isThrough (data : Value) : IsThrough (publish · data) where
  obeys h := publish_obeys h data
  mirrors notes sink := by
    refine .get_bind fun s => ?_
    dsimp only [unnoted]
    split
    · exact enqueue_mirrors notes sink data
    · exact .bind (counted_mirrors _ _) fun _ => .pure _

theorem tick_isThrough : IsThrough tick where
  obeys := tick_obeys
  mirrors notes sink := by
    refine .get_bind fun s => ?_
    dsimp only [unnoted]
    split
    · exact .pure _
    · exact .bind (flush_isThrough.mirrors notes sink) fun _ => .pure _

theorem stop_isThrough : IsThrough stop where
  obeys := stop_obeys
  mirrors notes sink := .bind (update_mirrors _) fun _ => flush_isThrough.mirrors notes sink

end Publisher
end WideColumn.Stream
