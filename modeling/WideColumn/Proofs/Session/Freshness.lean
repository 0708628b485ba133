import WideColumn.Proofs.Session.Lifecycle

/-! On which connection a session asks the store. Every operation asks on the connection that the
service has while it runs. A cursor keeps the connection that the service had when the cursor was
opened: asked for its first row after that one was closed, it asks on the closed one. -/
namespace WideColumn

open Store (Call Made)

/-- The steps that require a connection. -/
def Step.isOperation : Step → Bool
  | put .. | putRow .. | delete .. | tableName .. | scan .. | openCursor .. => true
  | _ => false

def Step.asksCursor : Step → Bool
  | nextRow _ => true
  | _ => false

namespace Client

variable {calls : List Call} {c c' : Client}

/-- A call that leaves the connection alone is made while the connection of the client, if it has
one, is the only open one. -/
theorem After.moment (after : After calls c c') (plain : ∀ call ∈ calls, call.IsPlain)
    (accounted : c.Accounted) {before later : List Made} {made : Made}
    (noted : c'.store.calls = c.store.calls ++ (before ++ made :: later)) :
    made.call ∈ calls ∧ made.current = c.service.connection.map (·.number) ∧
      connectionsOpen (c.store.calls ++ before) = made.current.toList := by
  have same := List.append_cancel_left (after.noted.symm.trans noted)
  have isMade : ∀ made' ∈ before ++ made :: later, made'.call ∈ calls ∧
      made'.current = c.service.connection.map (·.number) := by
    intro made' member
    rw [← same] at member
    obtain ⟨call, isCall, rfl⟩ := List.mem_map.mp member
    exact ⟨isCall, rfl⟩
  obtain ⟨isCall, current⟩ := isMade made (List.mem_append_right _ (.head _))
  refine ⟨isCall, current, ?_⟩
  have plain' : ∀ made' ∈ before, made'.call.IsPlain := fun made' member =>
    plain _ (isMade made' (List.mem_append_left _ member)).1
  rw [current]
  exact (accounted.ledger.plain plain').held

end Client

namespace Session

/-- A step that asks a cursor for its first row, where the connection that the cursor waits on has
been closed before. -/
def IsStale (s : Session) (c : Client) (next : Step) (n : Nat) : Prop :=
  ∃ name id connection request, next = .nextRow name ∧
    s.cursors.get? name = some (id, .waiting connection request) ∧
    connection.number = n ∧ n ∈ connectionsClosed c.store.calls

/-- What a call is made on: the connection that the service has at that moment, the only open one;
or, in a stale step, one that is not open. -/
def Fits (s : Session) (c : Client) (next : Step) (before : List Made) (made : Made) : Prop :=
  ∀ n, made.call.connection? = some n →
    (¬ IsStale s c next n → made.current = some n ∧
      connectionsOpen (c.store.calls ++ before) = [n]) ∧
    (IsStale s c next n → made.current ≠ some n ∧
      n ∉ connectionsOpen (c.store.calls ++ before))

variable {member : String} {s : Session} {c c' : Client} {next : Step}

theorem unstale (other : next.asksCursor = false) (n : Nat) : ¬ IsStale s c next n := by
  rintro ⟨name, -, -, -, rfl, -⟩
  cases other

/-- A call without a connection fits everywhere. -/
theorem fits_of_unused {before : List Made} {made : Made} (unused : made.call.connection? = none) :
    Fits s c next before made := by
  intro n uses
  cases unused.symm.trans uses

/-- The calls that a step adds to those of the session. -/
structure Adds (s : Session) (c c' : Client) (next : Step) (made : List Made) : Prop where
  noted : c'.store.calls = c.store.calls ++ made
  fits : ∀ before call later, made = before ++ call :: later → Fits s c next before call
  stale : ∀ n, IsStale s c next n → ∃ call ∈ made, call.call.connection? = some n

theorem adds_of_worked (sound : Sound member s c) (other : next.asksCursor = false)
    (worked : Client.Worked c c') :
    ∃ made, Adds s c c' next made ∧ (c.service.connection = none → made = []) := by
  obtain ⟨calls, operated⟩ := worked
  refine ⟨_, ⟨operated.noted, ?_, fun n stale => absurd stale (unstale other n)⟩, ?_⟩
  · intro before call later split n uses
    obtain ⟨isCall, current, isOpen⟩ := operated.moment operated.plain sound.accounted
      (split ▸ operated.noted)
    refine ⟨fun _ => ?_, fun stale => absurd stale (unstale other n)⟩
    cases found : c.service.connection with
    | none =>
      rw [operated.disabled found] at isCall
      cases isCall
    | some connection =>
      obtain rfl := (operated.enabled connection found call.call isCall).uses n uses
      rw [found] at current
      rw [current] at isOpen
      exact ⟨current, isOpen⟩
  · intro none
    rw [operated.disabled none]
    rfl

theorem adds_of_reconnected (sound : Sound member s c) (other : next.asksCursor = false)
    (reconnected : Client.Reconnected c c') : ∃ made, Adds s c c' next made := by
  obtain ⟨-, -, more, noted, areNew⟩ := reconnected sound.accounted
  refine ⟨more, noted, ?_, fun n stale => absurd stale (unstale other n)⟩
  rintro before call later rfl
  exact fits_of_unused (areNew call (List.mem_append_right _ (.head _))).1

theorem adds_of_onScanner {calls : List Call} (other : next.asksCursor = false)
    (after : Client.After calls c c') (onScanner : ∀ call ∈ calls, call.IsOnScanner) :
    ∃ made, Adds s c c' next made := by
  refine ⟨_, after.noted, ?_, fun n stale => absurd stale (unstale other n)⟩
  intro before call later split
  have isMade : call ∈ before ++ call :: later := List.mem_append_right _ (.head _)
  rw [← split] at isMade
  obtain ⟨isCall, member, rfl⟩ := List.mem_map.mp isMade
  exact fits_of_unused (onScanner isCall member).unused

/-- A cursor that is asked for a row uses the connection that it waits on, open or not. -/
theorem adds_of_stepped (sound : Sound member s c) {name : String} {id : ServiceId}
    {cursor : Cursor} (found : s.cursors.get? name = some (id, cursor))
    {outcome : Except Fault (Option ScannedRow × Cursor)} {calls : List Call}
    (after : Client.After calls c c') (stepped : Client.Stepped cursor outcome calls) :
    ∃ made, Adds s c c' (.nextRow name) made := by
  refine ⟨_, after.noted, ?_, ?_⟩
  · intro before call later split n uses
    obtain ⟨isCall, current, isOpen⟩ := after.moment stepped.plain sound.accounted
      (split ▸ after.noted)
    obtain ⟨connection, request, rfl, rfl⟩ := stepped.waits isCall uses
    have isMade := (sound.cursors name id _ found).2 connection request rfl
    have held : connectionsOpen c.store.calls = call.current.toList :=
      sound.accounted.ledger.held.trans (congrArg Option.toList current.symm)
    constructor
    · intro fresh
      have unclosed : connection.number ∉ connectionsClosed c.store.calls := fun closed =>
        fresh ⟨name, id, connection, request, rfl, found, rfl, closed⟩
      have member := mem_connectionsOpen.mpr ⟨isMade, unclosed⟩
      rw [held, Option.mem_toList] at member
      exact ⟨member, isOpen.trans (congrArg Option.toList member)⟩
    · rintro ⟨-, -, -, -, -, -, -, closed⟩
      have shut : connection.number ∉ call.current.toList := by
        rw [← held, mem_connectionsOpen]
        exact fun isOpen => isOpen.2 closed
      rw [isOpen]
      exact ⟨fun same => shut (Option.mem_toList.mpr same), shut⟩
  · rintro n ⟨other, id', connection, request, same, waits, rfl, -⟩
    cases same
    cases found.symm.trans waits
    obtain ⟨lookUps, -, ⟨-, rfl⟩ | ⟨more, -, rfl⟩⟩ := stepped
    · exact ⟨_, .head _, rfl⟩
    · exact ⟨_, .head _, rfl⟩

theorem adds_of_nextRow (sound : Sound member s c) {name : String}
    (moves : Moves s c c' (.nextRow name)) : ∃ made, Adds s c c' (.nextRow name) made := by
  cases found : s.cursors.get? name with
  | none =>
    simp only [Moves, found] at moves
    subst moves
    refine ⟨[], (List.append_nil _).symm, ?_, ?_⟩
    · intro before call later split
      simp at split
    · rintro n ⟨other, id, connection, request, same, waits, -⟩
      cases same
      cases found.symm.trans waits
  | some entry =>
    simp only [Moves, found] at moves
    obtain ⟨outcome, calls, after, stepped⟩ := moves
    exact adds_of_stepped sound found after stepped

theorem adds_of_moves (sound : Sound member s c) (moves : Moves s c c' next) :
    ∃ made, Adds s c c' next made ∧
      (c.service.connection = none → next.isOperation → made = []) := by
  cases asks : next.asksCursor with
  | true =>
    cases next with
    | nextRow name =>
      obtain ⟨made, adds⟩ := adds_of_nextRow sound moves
      exact ⟨made, adds, fun _ other => Bool.noConfusion other⟩
    | _ => cases asks
  | false =>
    cases next with
    | enable name racing =>
      obtain ⟨made, adds⟩ := adds_of_reconnected sound asks moves
      exact ⟨made, adds, fun _ other => Bool.noConfusion other⟩
    | shutdown name =>
      obtain ⟨made, adds⟩ := adds_of_reconnected sound asks moves
      exact ⟨made, adds, fun _ other => Bool.noConfusion other⟩
    | closeCursor name =>
      obtain ⟨calls, after, onScanner⟩ := moves
      obtain ⟨made, adds⟩ := adds_of_onScanner asks after onScanner
      exact ⟨made, adds, fun _ other => Bool.noConfusion other⟩
    | nextRow name => cases asks
    | _ =>
      obtain ⟨made, adds, idle⟩ := adds_of_worked sound asks moves
      exact ⟨made, adds, fun none _ => idle none⟩

/-- While the service is not enabled, a cursor can only wait on a connection that has been
closed. -/
theorem stale_of_disabled (sound : Sound member s c) (none : c.service.connection = none)
    {name : String} {id : ServiceId} {connection : Connection} {request : ScanRequest}
    (waits : s.cursors.get? name = some (id, .waiting connection request)) :
    IsStale s c (.nextRow name) connection.number := by
  refine ⟨name, id, connection, request, rfl, waits, rfl, ?_⟩
  have isMade := (sound.cursors name id _ waits).2 connection request rfl
  have held := sound.accounted.ledger.held
  rw [none] at held
  by_contra unclosed
  have isOpen := mem_connectionsOpen.mpr ⟨isMade, unclosed⟩
  rw [held] at isOpen
  cases isOpen

/-- Whatever the steps of a session are, the store is only asked on the connection that the service
has at that moment, which is then the only open one: except when a cursor is asked for its first row
after the connection that it waits on was closed, and then the closed one is used. While the service
is not enabled, an operation makes no calls, and every cursor that waits does so on a closed
connection. -/
theorem asks_on_current_connection (reached : Reached member s) (ofService : next.isOfService) :
    ∃ c c' made, s.hub.clients = [c] ∧ (step next s).2.hub.clients = [c'] ∧
      c'.store.calls = c.store.calls ++ made ∧
      (∀ before call later, made = before ++ call :: later → Fits s c next before call) ∧
      (∀ n, IsStale s c next n → ∃ call ∈ made, call.call.connection? = some n) ∧
      (c.service.connection = none → (next.isOperation → made = []) ∧
        ∀ name id connection request, next = .nextRow name →
          s.cursors.get? name = some (id, .waiting connection request) →
          IsStale s c next connection.number) := by
  obtain ⟨c, sound⟩ := reached.sound
  obtain ⟨c', sound', moves⟩ := sound.step ofService
  obtain ⟨made, adds, idle⟩ := adds_of_moves sound moves
  refine ⟨c, c', made, sound.alone, sound'.alone, adds.noted, adds.fits, adds.stale, ?_⟩
  intro none
  refine ⟨idle none, ?_⟩
  rintro name id connection request rfl waits
  exact stale_of_disabled sound none waits

/-- A cursor is opened, the service is shut down, and the cursor is asked for its first row: a
scanner is asked for on the connection that has been closed. -/
theorem asks_on_current_connection_after_shutdown :
    let settings : Settings := .ofList [("confFiles", .text "hbase-site.xml")]
    let created := (step (.createService "s" "svc" (.given settings) .direct ∅) {}).2
    let opened := (step (.openCursor "i" "s" { table := "t" } none)
      (step (.enable "s" false) created).2).2
    let shut := (step (.shutdown "s") opened).2
    Reached "s" shut ∧ ∃ c c' made call, shut.hub.clients = [c] ∧ c.service.connection = none ∧
      (step (.nextRow "i") shut).2.hub.clients = [c'] ∧
      c'.store.calls = c.store.calls ++ made ∧ IsStale shut c (.nextRow "i") 1 ∧
      call ∈ made ∧ call.call.connection? = some 1 := by
  intro settings created opened shut
  have made : Reached "s" created :=
    @Reached.created "s" {} (fun _ => none) "svc" (.given settings) .direct ∅ _ _ rfl
  have reached : Reached "s" shut := .step (.step (.step made rfl) rfl) rfl
  have ofService : (Step.nextRow "i").isOfService := rfl
  obtain ⟨c, c', made, alone, alone', noted, -, uses, idle⟩ :=
    asks_on_current_connection reached ofService
  have unconnected : shut.hub.services.map (·.connection) = [none] := by decide +kernel
  rw [(Hub.services_of_alone alone).1] at unconnected
  have disabled : c.service.connection = none := List.singleton_inj.mp unconnected
  have waits : shut.cursors.get? "i" = some (0, .waiting ⟨1, .direct⟩ { table := "t" }) := rfl
  have stale := (idle disabled).2 "i" 0 ⟨1, .direct⟩ { table := "t" } rfl waits
  obtain ⟨call, member, asked⟩ := uses 1 stale
  exact ⟨reached, c, c', made, call, alone, disabled, alone', noted, stale, member, asked⟩

end Session
end WideColumn
