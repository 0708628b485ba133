import WideColumn.Proofs.Action
import WideColumn.Proofs.Service.Connection
import WideColumn.Proofs.Service.Hub
import WideColumn.Proofs.Service.Usage
import WideColumn.Session.Step

/-! Sessions with one service: what a step of such a session does to the service, to the store and
to the cursors, one lemma for each kind of step. -/
namespace WideColumn

open Store (Call Made)

variable {α : Type}

namespace Hub

/-- The clients of a hub: its services, each with what they share. -/
def clients (h : Hub) : List Client := h.services.map fun service => ⟨service, h.store, h.metrics⟩

/-- What becomes of a hub with one service when its client changes in some way. -/
def Turns (change : Client → Client → Prop) (h h' : Hub) : Prop :=
  ∀ c, h.clients = [c] → ∃ c', h'.clients = [c'] ∧ change c c'

theorem Turns.refl {change : Client → Client → Prop} (same : ∀ c, change c c) (h : Hub) :
    Turns change h h := fun c alone => ⟨c, alone, same c⟩

theorem services_of_alone {h : Hub} {c : Client} (alone : h.clients = [c]) :
    h.services = [c.service] ∧ h.store = c.store ∧ h.metrics = c.metrics := by
  obtain ⟨service, services, made⟩ := List.map_eq_singleton_iff.mp alone
  rw [← made]
  exact ⟨services, rfl, rfl⟩

/-- A service works as its client does. No other number leads to a service. -/
theorem onService_of_alone {h : Hub} {c : Client} (alone : h.clients = [c]) (id : ServiceId)
    (a : Action Client α) :
    (id = 0 ∧ ∃ h', onService id a h = ((a c).1, h') ∧ h'.clients = [(a c).2]) ∨
      (id ≠ 0 ∧ ∃ e, onService id a h = (.error e, h)) := by
  obtain ⟨services, store, metrics⟩ := services_of_alone alone
  cases id with
  | zero =>
    refine .inl ⟨rfl, h.withClient 0 (a c).2, ?_, ?_⟩
    · simp only [onService, services, store, metrics, List.getElem?_cons_zero]
    · simp only [clients, withClient, services, List.set_cons_zero, List.map_cons, List.map_nil]
  | succ n =>
    refine .inr ⟨Nat.succ_ne_zero n, .notEnabled "", ?_⟩
    simp only [onService, services, List.getElem?_cons_succ, List.getElem?_nil]

theorem onService_turns {change : Client → Client → Prop} (same : ∀ c, change c c)
    {a : Action Client α} (changes : a.Obeys change) (id : ServiceId) :
    (onService id a).Obeys (Turns change) := by
  intro h c alone
  rcases onService_of_alone alone id a with ⟨-, h', ran, alone'⟩ | ⟨-, e, failed⟩
  · rw [ran]
    exact ⟨(a c).2, alone', changes c⟩
  · rw [failed]
    exact ⟨c, alone, same c⟩

end Hub

namespace Session

/-- A step that changes only what the one service has, or is. -/
structure Turns (change : Client → Client → Prop) (s s' : Session) : Prop where
  hub : Hub.Turns change s.hub s'.hub
  members : s'.members = s.members
  cursors : s'.cursors = s.cursors

theorem Turns.refl {change : Client → Client → Prop} (same : ∀ c, change c c) (s : Session) :
    Turns change s s := ⟨.refl same s.hub, rfl, rfl⟩

theorem onHub_turns {change : Client → Client → Prop} {a : Action Hub α}
    (obeys : a.Obeys (Hub.Turns change)) : (onHub a).Obeys (Turns change) :=
  fun s => ⟨obeys s.hub, rfl, rfl⟩

theorem onHub_reads {a : Action Hub α} (reads : a.Reads) : (onHub a).Reads := by
  intro s
  show { s with hub := (a s.hub).2 } = s
  rw [reads]

theorem find_reads (name : String) : (find name).Reads := by
  refine .bind .get fun s => ?_
  cases s.members.get? name with
  | some member => exact .pure member
  | none => exact .fail _

/-- What is done with a member, if there is one of the name. -/
theorem find_bind (name : String) (f : Member → Action Session α) (s : Session) :
    (find name >>= f) s = match s.members.get? name with
      | some member => f member s
      | none => (.error (.unknown name), s) := by
  have found : find name s = match s.members.get? name with
      | some member => (.ok member, s)
      | none => (.error (.unknown name), s) := by
    change (match s.members.get? name with
      | some member => pure member
      | none => Action.fail (.unknown name) : Action Session Member) s = _
    cases s.members.get? name with
    | none => rfl
    | some member => rfl
  cases known : s.members.get? name with
  | none =>
    rw [known] at found
    exact Action.bind_of_error found
  | some member =>
    rw [known] at found
    exact Action.bind_of_ok found

theorem findService_eq (name : String) (s : Session) :
    findService name s = match s.members.get? name with
      | some (.service id) => (.ok id, s)
      | some _ | none => (.error (.unknown name), s) := by
  rw [findService, find_bind]
  cases s.members.get? name with
  | none => rfl
  | some member => cases member <;> rfl

theorem findService_reads (name : String) : (findService name).Reads := by
  refine .bind (find_reads name) fun member => ?_
  cases member with
  | service id => exact .pure id
  | _ => exact .fail _

theorem onService_reads {a : Action Client α} (reads : a.Reads) (name : String) :
    (onService name a).Reads :=
  .bind (findService_reads name) fun id => onHub_reads (Hub.onService_reads reads id)

theorem onService_turns {change : Client → Client → Prop} (same : ∀ c, change c c)
    {a : Action Client α} (changes : a.Obeys change) (name : String) :
    (onService name a).Obeys (Turns change) :=
  .after_reading (Turns.refl same) (findService_reads name) fun id =>
    onHub_turns (Hub.onService_turns same changes id)

end Session

namespace Hub

theorem collect_works : collect.Obeys (Turns Client.Worked) := by
  intro h c alone
  obtain ⟨services, store, metrics⟩ := services_of_alone alone
  obtain ⟨_, after, rfl⟩ := Silent.pass .metrics c
  have passed : (Client.pass .metrics c).2 = { c with store := (c.store.pass .metrics).2 } := by
    unfold Client.pass
    rcases c.store.pass .metrics with ⟨_ | fault, store⟩ <;> rfl
  refine ⟨(Client.pass .metrics c).2, ?_, [], .of_after after⟩
  rw [passed]
  unfold collect
  rw [store]
  rcases c.store.pass .metrics with ⟨_ | fault, store'⟩ <;>
    simp only [clients, services, metrics, List.map_cons, List.map_nil]

end Hub

/-- A step that at most reads and writes through the service. -/
def Step.isWork : Step → Bool
  | stage _ | planFault .. | validate _ | isEnabled _ | put .. | putRow .. | delete ..
  | tableName .. | scan .. | details _ | metrics | page .. => true
  | _ => false

namespace Session

/-- Changes to what is planned for the store and to its rows are no calls. -/
theorem restored_works (s : Session) (store : Store)
    (connections : store.connections = s.hub.store.connections)
    (calls : store.calls = s.hub.store.calls) :
    Turns Client.Worked s { s with hub := { s.hub with store } } := by
  refine ⟨fun c alone => ?_, rfl, rfl⟩
  obtain ⟨services, stored, metrics⟩ := Hub.services_of_alone alone
  refine ⟨{ c with store }, ?_, [], .of_after ⟨rfl, rfl, ?_, ?_⟩⟩
  · simp only [Hub.clients, services, metrics, List.map_cons, List.map_nil]
  · exact Nat.le_of_eq (stored ▸ connections.symm)
  · exact calls.trans (stored ▸ (List.append_nil _).symm)

theorem isEnabled_reads (member : String) : (isEnabled member).Reads :=
  onService_reads (.bind .get fun _ => .pure _) member

theorem sharedService_reads (member : Option String) : (sharedService member).Reads := by
  cases member with
  | none => exact .pure none
  | some name => exact .bind (findService_reads name) fun _ => .pure _

theorem details_reads (member : String) : (details member).Reads := by
  refine .bind .get fun s => ?_
  refine .bind (find_reads member) fun found => ?_
  cases found with
  | service id =>
    dsimp only
    cases s.hub.service? id with
    | some service => exact .bind (.ofExcept _) fun _ => .pure _
    | none => exact .fail _
  | _ => exact .pure _

theorem validate_reads (member : String) : (step (.validate member)).Reads := by
  refine onService_reads (.bind .get fun c => ?_) member
  exact .bind (.ofExcept c.service.validate) fun _ => .pure _

theorem page_works (service : Option ServiceId) (path : String) :
    (Hub.page service path).Obeys (Hub.Turns Client.Worked) := by
  have refl := Hub.Turns.refl Client.Worked.refl
  refine .after_reading refl (.ofExcept _) fun location => ?_
  dsimp only
  split
  · refine .then_reading ?_ fun samples => .bind .get fun _ => .pure _
    exact fun h => Hub.collect_works h
  · exact Action.Reads.obeys (.bind (.pure _) fun _ => .bind .get fun _ => .pure _) refl

theorem step_works {next : Step} (isWork : next.isWork) :
    (step next).Obeys (Turns Client.Worked) := by
  have refl := Turns.refl Client.Worked.refl
  cases next with
  | stage rows => exact fun s => restored_works s { s.hub.store with rows } rfl rfl
  | planFault point planned =>
    exact fun s => restored_works s (s.hub.store.planFault point planned) rfl rfl
  | validate member =>
    exact Action.Reads.obeys (validate_reads member) refl
  | isEnabled member => exact Action.Reads.obeys (isEnabled_reads member) refl
  | put member table requests =>
    exact .then_reading (onService_turns .refl (Client.put_operates table requests) member)
      fun _ => .pure _
  | putRow member table row columns timestamp =>
    exact .then_reading (onService_turns .refl (Client.put_operates table _) member)
      fun _ => .pure _
  | delete member table row =>
    exact .then_reading (onService_turns .refl (Client.delete_operates table row) member)
      fun _ => .pure _
  | tableName member table =>
    exact .then_reading (onService_turns .refl (Client.tableName_operates table) member)
      fun _ => .pure _
  | scan member request filter refusal =>
    exact .then_reading (onService_turns .refl (Client.scan_operates request filter _) member)
      fun _ => .pure _
  | details member =>
    exact Action.Reads.obeys (.bind (details_reads member) fun _ => .pure _) refl
  | metrics => exact .then_reading (onHub_turns Hub.collect_works) fun _ => .pure _
  | page member path =>
    refine .after_reading refl (sharedService_reads member) fun service => ?_
    exact .then_reading (onHub_turns (page_works service path)) fun _ => .pure _
  | _ => cases isWork

/-- Enabling the service and shutting it down. -/
theorem enable_reconnects (member : String) (racing : Bool) :
    (step (.enable member racing)).Obeys (Turns Client.Reconnected) := by
  refine .after_reading (Turns.refl .refl) (findService_reads member) fun id => ?_
  refine .then_reading (onHub_turns ?_) fun _ => isEnabled_reads member
  cases racing with
  | false =>
    exact .after_reading (Hub.Turns.refl .refl) .get fun h =>
      Hub.onService_turns .refl (Client.enable_accounts h.files) id
  | true =>
    exact .after_reading (Hub.Turns.refl .refl) .get fun h =>
      Hub.onService_turns .refl (Client.enableRacing_accounts h.files) id

theorem shutdown_reconnects (member : String) :
    (step (.shutdown member)).Obeys (Turns Client.Reconnected) :=
  .then_reading (onService_turns .refl Client.shutdown_accounts member) fun _ =>
    isEnabled_reads member

/-! Steps with cursors. -/

variable {s : Session} {c : Client}

theorem findCursor_eq (name : String) (s : Session) : findCursor name s =
    match s.cursors.get? name with
    | some cursor => (.ok cursor, s)
    | none => (.error (.unknown name), s) := by
  unfold findCursor
  rw [Action.get_bind]
  cases s.cursors.get? name <;> rfl

theorem findCursor_reads (name : String) : (findCursor name).Reads := by
  intro s
  rw [findCursor_eq]
  cases s.cursors.get? name with
  | some cursor => rfl
  | none => rfl

theorem onHub_eq {a : Action Hub α} {outcome : Except Fault α} {hub : Hub}
    (ran : a s.hub = (outcome, hub)) : onHub a s = (outcome, { s with hub }) := by
  show ((a s.hub).1, { s with hub := (a s.hub).2 }) = _
  rw [ran]

/-- What a session with one service does for that service. -/
theorem onHub_of_alone (alone : s.hub.clients = [c]) (a : Action Client α) : ∃ hub,
    onHub (Hub.onService 0 a) s = ((a c).1, { s with hub }) ∧ hub.clients = [(a c).2] := by
  rcases Hub.onService_of_alone alone 0 a with ⟨-, hub, ran, alone'⟩ | ⟨other, -⟩
  · exact ⟨hub, onHub_eq ran, alone'⟩
  · exact absurd rfl other

/-- While something is done with a cursor, a finished one has its name. -/
theorem takeCursor_eq {name : String} {id : ServiceId} {cursor : Cursor}
    (found : s.cursors.get? name = some (id, cursor)) (f : ServiceId → Cursor → Action Session α) :
    (do
      let (id, cursor) ← findCursor name
      bindCursor name id .finished
      f id cursor) s =
      f id cursor { s with cursors := s.cursors.insert name (id, .finished) } := by
  have taken := findCursor_eq name s
  rw [found] at taken
  rw [Action.bind_of_ok taken]
  rfl

/-! A reply is made of what comes of a cursor, and changes nothing. -/

theorem step_nextRow (name : String) (s : Session) :
    (step (.nextRow name) s).2 = (nextRow name s).2 := Action.state_bind (fun _ => .pure _) s

theorem step_closeCursor (name : String) (s : Session) :
    (step (.closeCursor name) s).2 = (closeCursor name s).2 :=
  Action.state_bind (fun _ => .pure _) s

/-- Asking a cursor for a row makes the calls that the cursor makes, and leaves what is left of
it. -/
theorem nextRow_turn (alone : s.hub.clients = [c]) {name : String} {cursor : Cursor}
    (found : s.cursors.get? name = some (0, cursor)) : ∃ c' outcome calls,
      (step (.nextRow name) s).2.hub.clients = [c'] ∧ Client.After calls c c' ∧
      Client.Stepped cursor outcome calls ∧ (step (.nextRow name) s).2.members = s.members ∧
      ∀ other, (step (.nextRow name) s).2.cursors.get? other =
        if name = other then some (0, Cursor.after outcome) else s.cursors.get? other := by
  obtain ⟨calls, after, stepped⟩ := Client.next_calls cursor c
  let lent : Session := { s with cursors := s.cursors.insert name (0, .finished) }
  obtain ⟨hub, ran, alone'⟩ := onHub_of_alone (s := lent) alone (Client.next cursor)
  have taken : nextRow name s = _ := takeCursor_eq found fun id cursor => do
    let read ← onHub (Hub.onService id (Client.next cursor))
    bindCursor name id read.2
    return read.1
  rw [step_nextRow, taken]
  refine ⟨(Client.next cursor c).2, (Client.next cursor c).1, calls, ?_⟩
  rcases outcome : (Client.next cursor c).1 with e | ⟨row, left⟩
  · rw [outcome] at ran stepped
    rw [Action.bind_of_error ran]
    exact ⟨alone', after, stepped, rfl, fun other => OrderedMap.get?_insert ..⟩
  · rw [outcome] at ran stepped
    rw [Action.bind_of_ok ran]
    refine ⟨alone', after, stepped, rfl, fun other => ?_⟩
    show ((s.cursors.insert name (0, .finished)).insert name (0, left)).get? other = _
    rw [OrderedMap.get?_insert, OrderedMap.get?_insert]
    by_cases same : name = other
    · rw [if_pos same, if_pos same]
      rfl
    · rw [if_neg same, if_neg same, if_neg same]

theorem closeCursor_turn (alone : s.hub.clients = [c]) {name : String} {cursor : Cursor}
    (found : s.cursors.get? name = some (0, cursor)) : ∃ c' calls,
      (step (.closeCursor name) s).2.hub.clients = [c'] ∧ Client.After calls c c' ∧
      (∀ call ∈ calls, call.IsOnScanner) ∧ (step (.closeCursor name) s).2.members = s.members ∧
      ∀ other, (step (.closeCursor name) s).2.cursors.get? other =
        if name = other then some (0, .finished) else s.cursors.get? other := by
  obtain ⟨calls, after, onScanner⟩ := Client.closeCursor_onScanner cursor c
  let lent : Session := { s with cursors := s.cursors.insert name (0, .finished) }
  obtain ⟨hub, ran, alone'⟩ := onHub_of_alone (s := lent) alone (Client.closeCursor cursor)
  have taken : closeCursor name s = _ := takeCursor_eq found fun id cursor =>
    onHub (Hub.onService id (Client.closeCursor cursor))
  rw [step_closeCursor, taken, ran]
  exact ⟨_, calls, alone', after, onScanner, rfl, fun other => OrderedMap.get?_insert ..⟩

theorem cursor_unknown {name : String} (unknown : s.cursors.get? name = none) :
    (step (.nextRow name) s).2 = s ∧ (step (.closeCursor name) s).2 = s := by
  have failed := findCursor_eq name s
  rw [unknown] at failed
  constructor
  · rw [step_nextRow, nextRow, Action.bind_of_error failed]
  · rw [step_closeCursor, closeCursor, Action.bind_of_error failed]

/-- Closing a cursor while the service has a connection. -/
theorem dropCursor_turn (alone : s.hub.clients = [c]) {connection : Connection}
    (current : c.service.connection = some connection) (id : ServiceId) (old : Cursor) :
    ∃ outcome hub c', onHub (Hub.onService id (Client.closeCursor old)) s =
      (outcome, { s with hub }) ∧ hub.clients = [c'] ∧ Client.Worked c c' := by
  rcases Hub.onService_of_alone alone id (Client.closeCursor old) with
    ⟨-, hub, ran, alone'⟩ | ⟨-, e, failed⟩
  · refine ⟨_, hub, _, onHub_eq ran, alone', Client.worked_of_on current ?_⟩
    exact (Client.closeCursor_onScanner old).mono fun _ onScanner => onScanner.isOn _
  · exact ⟨_, s.hub, c, onHub_eq failed, alone, .refl c⟩

/-- What opening a cursor does: no calls are made, unless a cursor of the name is there and is
closed, and the new one waits on the connection of the service. -/
def Opens (name : String) (s s' : Session) : Prop :=
  ∀ c, s.hub.clients = [c] → ∃ c', s'.hub.clients = [c'] ∧ Client.Worked c c' ∧
    s'.members = s.members ∧ (s'.cursors = s.cursors ∨
      ∃ connection sent, c.service.connection = some connection ∧
        s'.cursors = s.cursors.insert name (0, .waiting connection sent))

theorem Opens.refl (name : String) (s : Session) : Opens name s s :=
  fun c alone => ⟨c, alone, .refl c, rfl, .inl rfl⟩

theorem openCursor_opens (name member : String) (request : ScanRequest) (filter : Option String) :
    (step (.openCursor name member request filter)).Obeys (Opens name) := by
  refine .then_reading ?_ fun _ => .pure _
  refine .after_reading (Opens.refl name) (findService_reads member) fun id s c alone => ?_
  rcases Hub.onService_of_alone alone id (Client.openCursor request filter) with
    ⟨rfl, hub, ran, alone'⟩ | ⟨-, e, failed⟩
  · rcases Client.openCursor_outcome request filter c with
      ⟨e, failed⟩ | ⟨connection, parsed, current, opened⟩
    · rw [failed] at ran alone'
      rw [Action.bind_of_error (onHub_eq ran)]
      exact ⟨c, alone', .refl c, rfl, .inl rfl⟩
    · rw [opened] at ran alone'
      rw [Action.bind_of_ok (onHub_eq ran), Action.get_bind]
      let cursor : Cursor := .waiting connection { request with filter := parsed }
      let bound : Session := { s with hub, cursors := s.cursors.insert name (0, cursor) }
      have binds : bindCursor name 0 cursor { s with hub } = (.ok (), bound) := rfl
      rw [Action.bind_of_ok binds]
      cases s.cursors.get? name with
      | none => exact ⟨c, alone', .refl c, rfl, .inr ⟨connection, _, current, rfl⟩⟩
      | some old =>
        obtain ⟨outcome, hub', c', dropped, alone'', worked⟩ :=
          dropCursor_turn (s := bound) alone' current old.1 old.2
        dsimp only
        rw [Action.state_bind (fun _ => .pure _)]
        show ∃ c', (onHub (Hub.onService old.1 (Client.closeCursor old.2)) bound).2.hub.clients =
          [c'] ∧ _
        rw [dropped]
        exact ⟨c', alone'', worked, rfl, .inr ⟨connection, _, current, rfl⟩⟩
  · rw [Action.bind_of_error (onHub_eq failed)]
    exact ⟨c, alone, .refl c, rfl, .inl rfl⟩

end Session
end WideColumn
