import WideColumn.Proofs.Action
import WideColumn.Service.Scan
import WideColumn.Service.Write

/-! The calls that an action makes. A specification relates the outcome of an action to its calls;
the parts of a sequence are put together by joining their calls. Whatever reads or writes through
the connection of a client leaves that connection and the gauge alone. -/
namespace WideColumn

open Store (Call Event Made Point)

variable {α β : Type}

theorem Client.pass_state (point : Point) (c : Client) :
    (Client.pass point c).2 = { c with store := (c.store.pass point).2 } := by
  unfold Client.pass
  rcases c.store.pass point with ⟨_ | fault, store⟩ <;> rfl

theorem Client.pass_log (point : Point) (c : Client) :
    (pass point c).2.store.log = c.store.log := by
  rw [pass_state]
  unfold Store.pass
  split <;> rfl

theorem Client.lookUp_log (connection : Connection) (table : String) (c : Client) :
    (lookUp connection table c).2.store.log = c.store.log :=
  pass_log .table _

/-- What a client is after calls that leave its connection alone. -/
structure Client.After (calls : List Call) (c c' : Client) : Prop where
  connection : c'.service.connection = c.service.connection
  gauge : c'.metrics.connectionEnabled = c.metrics.connectionEnabled
  connections : c.store.connections ≤ c'.store.connections
  noted : c'.store.calls =
    c.store.calls ++ calls.map fun call => ⟨call, c.service.connection.map (·.number)⟩

theorem Client.After.refl (c : Client) : After [] c c :=
  ⟨rfl, rfl, Nat.le_refl _, (List.append_nil _).symm⟩

theorem Client.After.trans {calls more : List Call} {c c' c'' : Client} (first : After calls c c')
    (second : After more c' c'') : After (calls ++ more) c c'' where
  connection := second.connection.trans first.connection
  gauge := second.gauge.trans first.gauge
  connections := Nat.le_trans first.connections second.connections
  noted := by
    rw [second.noted, first.noted, first.connection, List.map_append, List.append_assoc]

/-- From a client, an action makes calls that meet a specification together with its outcome. -/
def Makes (c : Client) (a : Action Client α) (spec : Except Fault α → List Call → Prop) : Prop :=
  ∃ calls, Client.After calls c (a c).2 ∧ spec (a c).1 calls

/-- An action that makes no calls. -/
def Silent (a : Action Client α) : Prop := ∀ c, Makes c a fun _ calls => calls = []

/-- An action all of whose calls are of a kind. -/
def MakesOnly (kind : Call → Prop) (a : Action Client α) : Prop :=
  ∀ c, Makes c a fun _ calls => ∀ call ∈ calls, kind call

namespace Makes

variable {c : Client} {a : Action Client α} {f : α → Action Client β}
  {spec : Except Fault α → List Call → Prop} {goal : Except Fault β → List Call → Prop}

theorem mono {weaker : Except Fault α → List Call → Prop} (h : Makes c a spec)
    (weakens : ∀ outcome calls, spec outcome calls → weaker outcome calls) : Makes c a weaker := by
  obtain ⟨calls, after, met⟩ := h
  exact ⟨calls, after, weakens _ _ met⟩

theorem congr {b : Action Client α} (same : a c = b c) (h : Makes c b spec) : Makes c a spec := by
  unfold Makes
  rw [same]
  exact h

/-- What an action has been seen to note meets its specification. -/
theorem of_noted {c' : Client} {outcome : Except Fault α} {made : List Made} (h : Makes c a spec)
    (ran : a c = (outcome, c')) (noted : c'.store.calls = c.store.calls ++ made) :
    spec outcome (made.map (·.call)) := by
  obtain ⟨calls, after, met⟩ := h
  rw [ran] at after met
  have same := List.append_cancel_left (noted.symm.trans after.noted)
  have back : (calls.map fun call =>
      (⟨call, c.service.connection.map (·.number)⟩ : Made)).map (·.call) = calls := by
    rw [List.map_map]
    exact List.map_id calls
  rw [same, back]
  exact met

theorem pure {x : α} (met : spec (.ok x) []) : Makes c (Pure.pure x) spec :=
  ⟨[], .refl c, met⟩

theorem fail {e : Fault} (met : spec (.error e) []) : Makes c (Action.fail e) spec :=
  ⟨[], .refl c, met⟩

/-- A sequence: its second part goes on from the client that the first one leaves. -/
theorem bind (first : Makes c a spec)
    (next : ∀ x calls c', (a c).1 = .ok x → Client.After calls c c' → spec (.ok x) calls →
      Makes c' (f x) fun outcome more => goal outcome (calls ++ more))
    (failed : ∀ e calls, (a c).1 = .error e → spec (.error e) calls → goal (.error e) calls) :
    Makes c (a >>= f) goal := by
  obtain ⟨calls, after, met⟩ := first
  rcases run : a c with ⟨outcome, c'⟩
  rw [run] at after met next failed
  cases outcome with
  | ok x =>
    obtain ⟨more, later, reached⟩ := next x calls c' rfl after met
    have goesOn := Action.bind_of_ok (f := f) run
    refine ⟨calls ++ more, ?_, ?_⟩
    · rw [goesOn]
      exact after.trans later
    · rw [goesOn]
      exact reached
  | error e =>
    have stopped := Action.bind_of_error (f := f) run
    refine ⟨calls, ?_, ?_⟩
    · rw [stopped]
      exact after
    · rw [stopped]
      exact failed e calls rfl met

/-- A sequence that begins with an action without calls. -/
theorem bind_silent (first : Silent a)
    (next : ∀ x c', (a c).1 = .ok x → Client.After [] c c' → Makes c' (f x) goal)
    (failed : ∀ e, (a c).1 = .error e → goal (.error e) []) : Makes c (a >>= f) goal := by
  refine bind (first c) ?_ ?_
  · rintro x _ c' ran after rfl
    exact next x c' ran after
  · rintro e _ stopped rfl
    exact failed e stopped

/-- A sequence that begins with an attempt, which may have failed but does not end it. -/
theorem bind_attempt {f : Except Fault α → Action Client β} (first : Makes c a spec)
    (next : ∀ outcome calls c', (a c).1 = outcome → Client.After calls c c' → spec outcome calls →
      Makes c' (f outcome) fun outcome more => goal outcome (calls ++ more)) :
    Makes c (Action.attempt a >>= f) goal := by
  obtain ⟨calls, after, met⟩ := first
  obtain ⟨more, later, reached⟩ := next (a c).1 calls (a c).2 rfl after met
  exact ⟨calls ++ more, after.trans later, reached⟩

end Makes

namespace Silent

variable {a : Action Client α}

/-- An action that changes nothing but what calls leave alone makes none. -/
theorem of_after (after : ∀ c, Client.After [] c (a c).2) : Silent a := fun c => ⟨[], after c, rfl⟩

theorem of_reads (reads : a.Reads) : Silent a := of_after fun c => by
  rw [reads]
  exact .refl c

theorem pure (x : α) : Silent (Pure.pure x) := of_reads (.pure x)

theorem fail (e : Fault) : Silent (Action.fail e : Action Client α) := of_reads (.fail e)

theorem get : Silent Action.get := of_reads .get

theorem ofExcept (outcome : Except Fault α) : Silent (Action.ofExcept outcome) :=
  of_reads (.ofExcept outcome)

theorem bind {f : α → Action Client β} (first : Silent a) (next : ∀ x, Silent (f x)) :
    Silent (a >>= f) :=
  fun _ => .bind_silent first (fun x c' _ _ => next x c') fun _ _ => rfl

theorem attempt (h : Silent a) : Silent (Action.attempt a) := fun c => by
  obtain ⟨calls, after, silent⟩ := h c
  exact ⟨calls, after, silent⟩

theorem log (e : Event) : Silent (Client.log e) :=
  of_after fun _ => ⟨rfl, rfl, Nat.le_refl _, (List.append_nil _).symm⟩

theorem count (s : Series) (n : Nat) : Silent (Client.count s n) :=
  of_after fun _ => ⟨rfl, rfl, Nat.le_refl _, (List.append_nil _).symm⟩

theorem meet (incident : Store.Incident) : Silent (Client.meet incident) :=
  of_after fun _ => ⟨rfl, rfl, Nat.le_refl _, (List.append_nil _).symm⟩

theorem update {f : Service → Service} (keeps : ∀ s, (f s).connection = s.connection) :
    Silent (Client.update f) :=
  of_after fun c => ⟨keeps c.service, rfl, Nat.le_refl _, (List.append_nil _).symm⟩

theorem observeBatch (table : String) (rows : Nat) :
    Silent (.modify fun c => { c with metrics := c.metrics.observeBatch table rows }) :=
  of_after fun _ => ⟨rfl, rfl, Nat.le_refl _, (List.append_nil _).symm⟩

theorem pass (point : Point) : Silent (Client.pass point) := of_after fun c => by
  have kept : (c.store.pass point).2.connections = c.store.connections ∧
      (c.store.pass point).2.calls = c.store.calls := by
    unfold Store.pass
    split <;> exact ⟨rfl, rfl⟩
  rw [Client.pass_state]
  exact ⟨rfl, rfl, Nat.le_of_eq kept.1.symm, kept.2.trans (List.append_nil _).symm⟩

theorem makes (h : Silent a) {c : Client} {spec : Except Fault α → List Call → Prop}
    (met : ∀ outcome, spec outcome []) : Makes c a spec := by
  refine (h c).mono ?_
  rintro outcome _ rfl
  exact met outcome

theorem makesOnly (h : Silent a) (kind : Call → Prop) : MakesOnly kind a :=
  fun _ => h.makes fun _ => List.forall_mem_nil kind

end Silent

namespace Makes

variable {c : Client} {a : Action Client α} {spec : Except Fault α → List Call → Prop}
  {call : Call}

theorem note_bind (rest : ∀ c', Makes c' a fun outcome calls => spec outcome (call :: calls)) :
    Makes c (Client.note call >>= fun _ => a) spec := by
  have noted : Client.After [call] c (Client.note call c).2 := ⟨rfl, rfl, Nat.le_refl _, rfl⟩
  obtain ⟨calls, after, met⟩ := rest (Client.note call c).2
  exact ⟨call :: calls, noted.trans after, met⟩

theorem note_silent (rest : Silent a) :
    Makes c (Client.note call >>= fun _ => a) fun _ calls => calls = [call] := by
  refine note_bind fun c' => (rest c').mono ?_
  rintro _ _ rfl
  rfl

end Makes

namespace MakesOnly

variable {kind : Call → Prop} {a : Action Client α}

theorem pure (x : α) : MakesOnly kind (Pure.pure x) := (Silent.pure x).makesOnly kind

theorem fail (e : Fault) : MakesOnly kind (Action.fail e : Action Client α) :=
  (Silent.fail e).makesOnly kind

theorem note {call : Call} (isKind : kind call) : MakesOnly kind (Client.note call) :=
  fun _ => ⟨[call], ⟨rfl, rfl, Nat.le_refl _, rfl⟩, List.forall_mem_singleton.mpr isKind⟩

theorem mono {wider : Call → Prop} (h : MakesOnly kind a)
    (widens : ∀ call, kind call → wider call) : MakesOnly wider a := by
  intro c
  obtain ⟨calls, after, isKind⟩ := h c
  exact ⟨calls, after, fun call member => widens call (isKind call member)⟩

theorem bind {f : α → Action Client β} (first : MakesOnly kind a)
    (next : ∀ x, MakesOnly kind (f x)) : MakesOnly kind (a >>= f) := fun c => by
  refine .bind (first c) ?_ fun _ _ _ isKind => isKind
  intro x calls c' _ _ isKind
  refine (next x c').mono ?_
  intro _ more areKind call member
  rcases List.mem_append.mp member with before | later
  · exact isKind call before
  · exact areKind call later

theorem attempt (h : MakesOnly kind a) : MakesOnly kind (Action.attempt a) := fun c => by
  obtain ⟨calls, after, isKind⟩ := h c
  exact ⟨calls, after, isKind⟩

end MakesOnly
end WideColumn
