import WideColumn.Proofs.Action
import WideColumn.Proofs.Except
import WideColumn.Proofs.Service.Beside
import WideColumn.Proofs.Service.Operations

/-! The connections of a client, counted over the calls that it has made. A client has every
connection that was handed over to it and that it has not closed: one while it is enabled, or none.
Enabling may make a second connection at the same time; the surplus one is closed at once. -/
namespace WideColumn

open Store (Call Made)

/-- The connections that have been handed over, in order. -/
def connectionsMade (calls : List Made) : List Nat := calls.filterMap (·.call.connected?)

/-- The connections that have been closed, in order. -/
def connectionsClosed (calls : List Made) : List Nat := calls.filterMap (·.call.disconnected?)

/-- The connections that have been handed over and not been closed. -/
def connectionsOpen (calls : List Made) : List Nat :=
  (connectionsMade calls).filter (· ∉ connectionsClosed calls)

variable {calls : List Made} {current : Option Nat} {n : Nat}

theorem mem_connectionsOpen : n ∈ connectionsOpen calls ↔
    n ∈ connectionsMade calls ∧ n ∉ connectionsClosed calls := by
  simp [connectionsOpen]

theorem connectionsMade_connected (n : Nat) :
    connectionsMade (calls ++ [⟨.connected n, current⟩]) = connectionsMade calls ++ [n] :=
  List.filterMap_append

theorem connectionsMade_disconnected (n : Nat) :
    connectionsMade (calls ++ [⟨.disconnected n, current⟩]) = connectionsMade calls :=
  List.filterMap_append.trans (List.append_nil _)

theorem connectionsClosed_connected (n : Nat) :
    connectionsClosed (calls ++ [⟨.connected n, current⟩]) = connectionsClosed calls :=
  List.filterMap_append.trans (List.append_nil _)

theorem connectionsClosed_disconnected (n : Nat) :
    connectionsClosed (calls ++ [⟨.disconnected n, current⟩]) = connectionsClosed calls ++ [n] :=
  List.filterMap_append

theorem connectionsOpen_connected (unclosed : n ∉ connectionsClosed calls) :
    connectionsOpen (calls ++ [⟨.connected n, current⟩]) = connectionsOpen calls ++ [n] := by
  simp [connectionsOpen, connectionsMade_connected, connectionsClosed_connected, unclosed]

theorem connectionsOpen_disconnected (n : Nat) :
    connectionsOpen (calls ++ [⟨.disconnected n, current⟩]) =
      (connectionsOpen calls).filter (· ≠ n) := by
  simp [connectionsOpen, connectionsMade_disconnected, connectionsClosed_disconnected,
    List.filter_filter, not_or, and_comm]

theorem plain_append (calls : List Made) {more : List Made}
    (plain : ∀ made ∈ more, made.call.IsPlain) :
    connectionsMade (calls ++ more) = connectionsMade calls ∧
      connectionsClosed (calls ++ more) = connectionsClosed calls := by
  have noneMade : connectionsMade more = [] :=
    List.filterMap_eq_nil_iff.mpr fun made member => (plain made member).opensNone
  have noneClosed : connectionsClosed more = [] :=
    List.filterMap_eq_nil_iff.mpr fun made member => (plain made member).closesNone
  constructor
  · rw [connectionsMade, List.filterMap_append, ← connectionsMade, ← connectionsMade, noneMade,
      List.append_nil]
  · rw [connectionsClosed, List.filterMap_append, ← connectionsClosed, ← connectionsClosed,
      noneClosed, List.append_nil]

/-- The account of the connections over some calls: those that are open, none of which is closed a
second time, and the greatest number that one can have had. -/
structure Ledger (calls : List Made) (latest : Nat) (opened : List Nat) : Prop where
  held : connectionsOpen calls = opened
  once : (connectionsClosed calls).Nodup
  closedMade : ∀ n ∈ connectionsClosed calls, n ∈ connectionsMade calls
  bound : ∀ n ∈ connectionsMade calls, n ≤ latest

namespace Ledger

variable {latest : Nat} {opened : List Nat}

theorem nil : Ledger [] 0 [] := ⟨rfl, .nil, nofun, nofun⟩

/-- A new connection is handed over. -/
theorem connected (h : Ledger calls latest opened) (new : n ∉ connectionsMade calls)
    (known : n ≤ latest) : Ledger (calls ++ [⟨.connected n, current⟩]) latest (opened ++ [n]) := by
  have unclosed : n ∉ connectionsClosed calls := fun closed => new (h.closedMade n closed)
  constructor
  · rw [connectionsOpen_connected unclosed, h.held]
  · rw [connectionsClosed_connected]
    exact h.once
  · rw [connectionsClosed_connected, connectionsMade_connected]
    exact fun n closed => List.mem_append_left _ (h.closedMade n closed)
  · rw [connectionsMade_connected]
    intro m made
    rcases List.mem_append.mp made with before | isNew
    · exact h.bound m before
    · rw [List.mem_singleton.mp isNew]
      exact known

/-- An open connection is closed. -/
theorem disconnected (h : Ledger calls latest opened) (isOpen : n ∈ opened) :
    Ledger (calls ++ [⟨.disconnected n, current⟩]) latest (opened.filter (· ≠ n)) := by
  rw [← h.held, mem_connectionsOpen] at isOpen
  obtain ⟨made, unclosed⟩ := isOpen
  constructor
  · rw [connectionsOpen_disconnected, h.held]
  · rw [connectionsClosed_disconnected]
    exact List.nodup_append.mpr ⟨h.once, List.nodup_cons.mpr ⟨List.not_mem_nil, .nil⟩,
      fun m closed _ isLast same => unclosed (List.mem_singleton.mp isLast ▸ same ▸ closed)⟩
  · rw [connectionsClosed_disconnected, connectionsMade_disconnected]
    intro m closed
    rcases List.mem_append.mp closed with before | isLast
    · exact h.closedMade m before
    · rw [List.mem_singleton.mp isLast]
      exact made
  · rw [connectionsMade_disconnected]
    exact h.bound

/-- A new connection is handed over and closed at once. -/
theorem surplus {later : Option Nat} (h : Ledger calls latest opened)
    (new : n ∉ connectionsMade calls) (known : n ≤ latest) :
    Ledger (calls ++ [⟨.connected n, current⟩] ++ [⟨.disconnected n, later⟩]) latest opened := by
  have notHeld : n ∉ opened := by
    rw [← h.held, mem_connectionsOpen]
    exact fun isOpen => new isOpen.1
  have others : opened.filter (· ≠ n) = opened :=
    List.filter_eq_self.mpr fun m held => decide_eq_true (ne_of_mem_of_not_mem held notHeld)
  have closed := @disconnected _ later _ _ _ (@connected _ current _ _ _ h new known)
    (List.mem_append_right _ (.head _))
  have notItself : [n].filter (· ≠ n) = [] := by simp
  rwa [List.filter_append, others, notItself, List.append_nil] at closed

theorem mono {later : Nat} (h : Ledger calls latest opened) (le : latest ≤ later) :
    Ledger calls later opened :=
  ⟨h.held, h.once, h.closedMade, fun n made => Nat.le_trans (h.bound n made) le⟩

/-- Calls that neither make nor close connections are not in the account. -/
theorem plain {more : List Made} (h : Ledger calls latest opened)
    (plain : ∀ made ∈ more, made.call.IsPlain) : Ledger (calls ++ more) latest opened := by
  obtain ⟨made, closed⟩ := plain_append calls plain
  refine ⟨?_, closed ▸ h.once, ?_, made ▸ h.bound⟩
  · rw [connectionsOpen, made, closed]
    exact h.held
  · rw [made, closed]
    exact h.closedMade

end Ledger

/-- A service that is made has what it has been given, and no connection. -/
theorem Service.create_eq {name : String} {given : GivenSettings} {backend : Backend}
    {filters : Filter.Table} {service : Service}
    (created : create name given backend filters = .ok service) :
    service = { name, settings := given.named, strayKey := given.strayKey, backend, filters } := by
  unfold create at created
  split at created
  · dsimp only at created
    obtain ⟨_, -, made⟩ := bind_eq_ok_iff.mp created
    exact (Except.ok.inj made).symm
  · exact (Except.ok.inj created).symm

namespace Client

/-- The account of a client: its connection is the only open one, and the gauge tells whether it
has one. -/
structure Accounted (c : Client) : Prop where
  ledger : Ledger c.store.calls c.store.connections (c.service.connection.map (·.number)).toList
  gauge : c.metrics.connectionEnabled = c.service.isEnabled

/-- What becomes of a client that makes and closes connections: those that are handed over have new
numbers, and none is used. -/
structure Newer (c c' : Client) : Prop where
  connections : c.store.connections ≤ c'.store.connections
  noted : ∃ more, c'.store.calls = c.store.calls ++ more ∧ ∀ made ∈ more,
    made.call.connection? = none ∧ ∀ n, made.call.connected? = some n → c.store.connections < n

namespace Newer

theorem refl (c : Client) : Newer c c :=
  ⟨Nat.le_refl _, [], (List.append_nil _).symm, List.forall_mem_nil _⟩

theorem append {start c c' : Client} {more : List Made} (h : Newer start c)
    (le : c.store.connections ≤ c'.store.connections)
    (noted : c'.store.calls = c.store.calls ++ more)
    (areNew : ∀ made ∈ more, made.call.connection? = none ∧
      ∀ n, made.call.connected? = some n → start.store.connections < n) : Newer start c' := by
  obtain ⟨le', made, noted', wereNew⟩ := h
  refine ⟨Nat.le_trans le' le, made ++ more, by rw [noted, noted', List.append_assoc], ?_⟩
  intro m member
  rcases List.mem_append.mp member with before | later
  · exact wereNew m before
  · exact areNew m later

theorem trans {c c' c'' : Client} (first : Newer c c') (second : Newer c' c'') : Newer c c'' := by
  obtain ⟨le, more, noted, areNew⟩ := second
  refine first.append le noted fun made member => ?_
  obtain ⟨unused, number⟩ := areNew made member
  exact ⟨unused, fun n isMade => Nat.lt_of_le_of_lt first.connections (number n isMade)⟩

theorem of_after {c c' : Client} (after : After [] c c') : Newer c c' :=
  ⟨after.connections, [], after.noted, List.forall_mem_nil _⟩

/-- A number that was given before is not given again. -/
theorem unmade {c c' : Client} (h : Newer c c') {n : Nat}
    (unmade : n ∉ connectionsMade c.store.calls) (given : n ≤ c.store.connections) :
    n ∉ connectionsMade c'.store.calls := by
  obtain ⟨-, more, noted, areNew⟩ := h
  rw [noted, connectionsMade, List.filterMap_append, List.mem_append]
  rintro (before | later)
  · exact unmade before
  · obtain ⟨made, member, isMade⟩ := List.mem_filterMap.mp later
    exact absurd ((areNew made member).2 n isMade) (Nat.not_lt.mpr given)

end Newer

/-- A change that leaves the account of a client in order while connections are made and closed. -/
def Reconnected (c c' : Client) : Prop := c.Accounted → c'.Accounted ∧ Newer c c'

theorem Reconnected.refl (c : Client) : Reconnected c c := fun h => ⟨h, .refl c⟩

def Accounts {α : Type} (a : Action Client α) : Prop := a.Obeys Reconnected

theorem After.accounted {calls : List Call} {c c' : Client} (after : After calls c c')
    (plain : ∀ call ∈ calls, call.IsPlain) (h : c.Accounted) : c'.Accounted := by
  constructor
  · rw [after.noted, after.connection]
    refine (h.ledger.plain ?_).mono after.connections
    intro made member
    obtain ⟨call, isCall, rfl⟩ := List.mem_map.mp member
    exact plain call isCall
  · rw [after.gauge, h.gauge, Service.isEnabled, Service.isEnabled, after.connection]

theorem accounts_of_silent {α : Type} {a : Action Client α} (silent : Silent a) : Accounts a := by
  intro c h
  obtain ⟨_, after, rfl⟩ := silent c
  exact ⟨after.accounted (List.forall_mem_nil _) h, .of_after after⟩

/-- An action without calls that gives a connection a new number. -/
def Numbers (a : Action Client Connection) : Prop := ∀ c, After [] c (a c).2 ∧
  ∀ connection, (a c).1 = .ok connection →
    c.store.connections < connection.number ∧ connection.number ≤ (a c).2.store.connections

namespace Numbers

theorem bind {α : Type} {a : Action Client α} {f : α → Action Client Connection} (first : Silent a)
    (next : ∀ x, Numbers (f x)) : Numbers (a >>= f) := by
  intro c
  obtain ⟨_, after, rfl⟩ := first c
  rcases run : a c with ⟨e | x, c'⟩
  · rw [run] at after
    rw [Action.bind_of_error run]
    exact ⟨after, nofun⟩
  · rw [run] at after
    rw [Action.bind_of_ok run]
    obtain ⟨later, number⟩ := next x c'
    refine ⟨after.trans later, fun connection opened => ?_⟩
    obtain ⟨isNew, known⟩ := number connection opened
    exact ⟨Nat.lt_of_le_of_lt after.connections isNew, known⟩

/-- The next number is given to the connection that comes of it. -/
theorem next {rest : Nat → Action Client Connection}
    (numbered : ∀ number c, Makes c (rest number) fun outcome calls =>
      calls = [] ∧ ∀ connection, outcome = .ok connection → connection.number = number) :
    Numbers (nextConnection >>= rest) := by
  intro c
  obtain ⟨_, after, rfl, isNumber⟩ := numbered (c.store.connections + 1) (nextConnection c).2
  have given : After [] c (nextConnection c).2 :=
    ⟨rfl, rfl, Nat.le_succ _, (List.append_nil _).symm⟩
  refine ⟨given.trans after, fun connection opened => ?_⟩
  rw [isNumber connection opened]
  exact ⟨Nat.lt_succ_self _, after.connections⟩

end Numbers

theorem openConnection_numbers (files : Files) : Numbers (openConnection files) := by
  have passed : ∀ (connection : Connection) c,
      Makes c (pass .connect >>= fun _ => pure connection) fun outcome calls =>
        calls = [] ∧ ∀ k, outcome = .ok k → k.number = connection.number := by
    intro connection c
    refine .bind_silent (.pass _) (fun _ c' _ _ => .pure ⟨rfl, ?_⟩) fun e _ => ⟨rfl, nofun⟩
    rintro k same
    rw [Except.ok.inj same]
  refine .bind .get fun c => ?_
  cases c.service.backend with
  | direct =>
    refine .next fun number c => ?_
    exact .bind_silent (.log _) (fun _ c' _ _ => passed ⟨number, .direct⟩ c') nofun
  | gateway =>
    refine .bind (.of_reads (gatewayAddress_reads files)) fun address => ?_
    refine .next fun number c => ?_
    refine .bind_silent (.log _) (fun _ c' _ _ => ?_) nofun
    exact .bind_silent (.log _) (fun _ c'' _ _ => passed ⟨number, .gateway⟩ c'') nofun

/-- What comes of a connection that is made while nothing else happens. -/
theorem connect_alone (files : Files) (c : Client) :
    (connect files (pure ()) c).2.service = c.service ∧
      (connect files (pure ()) c).2.store.calls = c.store.calls ++
        match (connect files (pure ()) c).1 with
        | .error _ => []
        | .ok connection => [⟨.connected connection.number, c.service.connection.map (·.number)⟩] := by
  obtain ⟨after, -⟩ := openConnection_numbers files c
  have kept : (openConnection files c).2.service = c.service :=
    congrArg (·.1.1) (openConnection_beside files c)
  have noted : (openConnection files c).2.store.calls = c.store.calls := by
    rw [after.noted, List.map_nil, List.append_nil]
  rcases opened : openConnection files c with ⟨e | connection, c'⟩
  · rw [opened] at kept noted
    have failed : connect files (pure ()) c = (.error e, c') := Action.bind_of_error opened
    rw [failed]
    exact ⟨kept, noted.trans (List.append_nil _).symm⟩
  · rw [opened] at kept noted
    have made : connect files (pure ()) c =
        (.ok connection, (note (.connected connection.number) c').2) := Action.bind_of_ok opened
    rw [made]
    refine ⟨kept, ?_⟩
    show c'.store.calls ++ [⟨.connected connection.number, c'.service.connection.map _⟩] = _
    rw [noted, show c'.service = c.service from kept]

/-- What comes of a connection that is made while something else happens: it is handed over with a
number that is new even then. -/
theorem connect_outcome {files : Files} {meanwhile : Action Client Unit}
    (accounts : Accounts meanwhile) {c c' : Client} {outcome : Except Fault Connection}
    (h : c.Accounted)
    (ran : connect files meanwhile c = (outcome, c')) : ∃ ready, ready.Accounted ∧ Newer c ready ∧
      match outcome with
      | .ok connection => c' = (note (.connected connection.number) ready).2 ∧
          c.store.connections < connection.number ∧
          connection.number ≤ ready.store.connections ∧
          connection.number ∉ connectionsMade ready.store.calls
      | .error _ => c' = ready := by
  obtain ⟨after, numbered⟩ := openConnection_numbers files c
  rcases opened : openConnection files c with ⟨e | connection, c₁⟩
  · rw [opened] at after
    cases (Action.bind_of_error opened).symm.trans ran
    exact ⟨c', after.accounted (List.forall_mem_nil _) h, .of_after after, rfl⟩
  · rw [opened] at after numbered
    obtain ⟨isNew, given⟩ := numbered connection rfl
    have accounted := after.accounted (List.forall_mem_nil _) h
    obtain ⟨accounted', newer⟩ := accounts c₁ accounted
    have newer' := (Newer.of_after after).trans newer
    have same := (Action.bind_of_ok opened).symm.trans ran
    rcases done : meanwhile c₁ with ⟨e | ⟨⟩, c₂⟩
    · rw [done] at accounted' newer'
      cases (Action.bind_of_error done).symm.trans same
      exact ⟨c', accounted', newer', rfl⟩
    · rw [done] at accounted' newer newer'
      cases (Action.bind_of_ok done).symm.trans same
      have unmade : connection.number ∉ connectionsMade c₁.store.calls := by
        rw [after.noted, List.map_nil, List.append_nil]
        exact fun made => absurd (h.ledger.bound _ made) (Nat.not_le.mpr isNew)
      exact ⟨c₂, accounted', newer', rfl, isNew, Nat.le_trans given newer.connections,
        newer.unmade unmade given⟩

theorem closeConnection_calls (connection : Connection) (c : Client) :
    Makes c (closeConnection connection) fun _ calls =>
      calls = [.disconnected connection.number] :=
  .note_silent (.bind (.log _) fun _ => .pass _)

theorem publish_eq (connection : Connection) (c : Client) :
    publish connection c = if c.service.isEnabled then closeConnection connection c
      else (.ok (), { c with
        service := { c.service with connection := some connection, wasEnabled := true }
        metrics := { c.metrics with connectionEnabled := true } }) := by
  have read : publish connection c = (if c.service.isEnabled then closeConnection connection
    else update (fun s => { s with connection := some connection, wasEnabled := true }) >>=
      fun _ => setGauge true) c := rfl
  rw [read]
  cases c.service.isEnabled <;> rfl

/-- A new connection that has been handed over becomes the one of the client, or is closed if the
client has one by then. -/
theorem publish_accounted {start c : Client} {connection : Connection} (h : c.Accounted)
    (newer : Newer start c) (isNew : start.store.connections < connection.number)
    (given : connection.number ≤ c.store.connections)
    (unmade : connection.number ∉ connectionsMade c.store.calls) :
    (publish connection (note (.connected connection.number) c).2).2.Accounted ∧
      Newer start (publish connection (note (.connected connection.number) c).2).2 := by
  have newer' : Newer start (note (.connected connection.number) c).2 := by
    refine newer.append (Nat.le_refl _) rfl (List.forall_mem_singleton.mpr ⟨rfl, ?_⟩)
    rintro n same
    exact Option.some.inj same ▸ isNew
  cases enabled : c.service.isEnabled with
  | true =>
    have surplus : publish connection (note (.connected connection.number) c).2 =
        closeConnection connection (note (.connected connection.number) c).2 :=
      (publish_eq _ _).trans (if_pos enabled)
    rw [surplus]
    obtain ⟨_, after, rfl⟩ :=
      closeConnection_calls connection (note (.connected connection.number) c).2
    refine ⟨⟨?_, ?_⟩, newer'.append after.connections after.noted
      (List.forall_mem_singleton.mpr ⟨rfl, nofun⟩)⟩
    · rw [after.noted, after.connection]
      exact (h.ledger.surplus unmade given).mono after.connections
    · rw [after.gauge, Service.isEnabled, after.connection]
      exact h.gauge
  | false =>
    have none : c.service.connection = none := by simpa [Service.isEnabled] using enabled
    have first : publish connection (note (.connected connection.number) c).2 = _ :=
      (publish_eq _ _).trans (if_neg (Bool.eq_false_iff.mp enabled))
    have noneHeld : (c.service.connection.map (·.number)).toList = [] := by rw [none]; rfl
    have ledger := h.ledger
    rw [noneHeld] at ledger
    rw [first]
    exact ⟨⟨ledger.connected unmade given, rfl⟩, newer'.connections, newer'.noted⟩

theorem attempt_of_eq {α : Type} {a : Action Client α} {c c' : Client} {outcome : Except Fault α}
    (ran : a c = (outcome, c')) : Action.attempt a c = (.ok outcome, c') := by
  unfold Action.attempt
  rw [ran]

/-- Enabling leaves the account in order if what happens meanwhile does. -/
theorem enableWith_accounts {files : Files} {meanwhile : Action Client Unit}
    (accounts : Accounts meanwhile) : Accounts (enableWith files meanwhile) := by
  intro c h
  unfold enableWith
  rw [Action.get_bind]
  cases c.service.isEnabled with
  | true => exact ⟨h, .refl c⟩
  | false =>
    rw [if_neg Bool.false_ne_true]
    rcases c.service.validate with e | invalid | ⟨⟩
    · exact ⟨h, .refl c⟩
    · exact ⟨h, .refl c⟩
    · rcases connected : connect files meanwhile c with ⟨outcome, c'⟩
      obtain ⟨ready, accounted, newer, became⟩ := connect_outcome accounts h connected
      dsimp only
      rw [Action.bind_of_ok (attempt_of_eq connected)]
      cases outcome with
      | ok connection =>
        obtain ⟨rfl, isNew, given, unmade⟩ := became
        exact publish_accounted accounted newer isNew given unmade
      | error e =>
        cases became
        have fails : Silent (if e.isService then Action.fail e else
            count (.errors e.kind "connection") >>= fun _ => Action.fail (.store .connect e) :
            Action Client Unit) := by
          split
          · exact .fail e
          · exact .bind (.count _ _) fun _ => .fail _
        obtain ⟨accounted', newer'⟩ := accounts_of_silent fails c' accounted
        exact ⟨accounted', newer.trans newer'⟩

theorem enable_accounts (files : Files) : Accounts (enable files) :=
  enableWith_accounts (accounts_of_silent (.pure ()))

theorem enableRacing_accounts (files : Files) : Accounts (enableRacing files) :=
  enableWith_accounts (enable_accounts files)

/-- What shutting down comes to for a client that has a connection. -/
theorem shutdown_eq {c : Client} {connection : Connection}
    (current : c.service.connection = some connection) :
    let closed := closeConnection connection
      { c with service := { c.service with connection := none } }
    shutdown c = (closed.1.mapError (.store .close), (setGauge false closed.2).2) := by
  rcases closed : closeConnection connection
    { c with service := { c.service with connection := none } } with ⟨outcome, c'⟩
  have gauged : setGauge false c' = (.ok (), (setGauge false c').2) := rfl
  unfold shutdown
  rw [Action.get_bind, current]
  dsimp only
  rw [Action.bind_of_ok (show update _ c = (.ok (), _) from rfl),
    Action.bind_of_ok (attempt_of_eq closed), Action.bind_of_ok gauged]
  cases outcome <;> rfl

/-- Shutting down closes the connection and leaves none, even if closing fails. -/
theorem shutdown_accounts : Accounts shutdown := by
  intro c h
  cases current : c.service.connection with
  | none =>
    have idle : shutdown c = (.ok (), c) := by
      unfold shutdown
      rw [Action.get_bind, current]
      rfl
    rw [idle]
    exact ⟨h, .refl c⟩
  | some connection =>
    have held : (c.service.connection.map (·.number)).toList = [connection.number] := by
      rw [current]
      rfl
    have ledger := h.ledger
    rw [held] at ledger
    have closed := @Ledger.disconnected _ none _ _ _ ledger (List.mem_singleton_self _)
    have noneHeld : [connection.number].filter (· ≠ connection.number) = [] := by simp
    rw [noneHeld] at closed
    rw [shutdown_eq current]
    let without : Client := { c with service := { c.service with connection := none } }
    obtain ⟨_, after, rfl⟩ := closeConnection_calls connection without
    change Accounted (setGauge false (closeConnection connection without).2).2 ∧
      Newer c (setGauge false (closeConnection connection without).2).2
    generalize (closeConnection connection without).2 = c' at after ⊢
    refine ⟨⟨?_, ?_⟩, after.connections, _, after.noted, ?_⟩
    · show Ledger c'.store.calls c'.store.connections (c'.service.connection.map (·.number)).toList
      rw [after.noted, after.connection]
      exact closed.mono after.connections
    · show false = c'.service.isEnabled
      rw [Service.isEnabled, after.connection]
      rfl
    · exact List.forall_mem_singleton.mpr ⟨rfl, nofun⟩

end Client
end WideColumn
