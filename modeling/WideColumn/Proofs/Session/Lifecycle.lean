import WideColumn.Proofs.Session.Single

/-! The life of a service. In every session that begins with one service and goes on with its
operations, whatever is planned to fail, the service holds the one connection that is open, or none
is open; and the gauge and the probes tell which. -/
namespace WideColumn

open Store (Call Made)

/-- A cursor that waits, if it does, on a connection that has been handed over. -/
def Cursor.OnMade (calls : List Made) (cursor : Cursor) : Prop :=
  ∀ connection request, cursor = .waiting connection request →
    connection.number ∈ connectionsMade calls

theorem connectionsMade_append {calls more : List Made} {n : Nat}
    (made : n ∈ connectionsMade calls) : n ∈ connectionsMade (calls ++ more) := by
  rw [connectionsMade, List.filterMap_append]
  exact List.mem_append_left _ made

theorem Cursor.OnMade.append {calls more : List Made} {cursor : Cursor} (h : cursor.OnMade calls) :
    cursor.OnMade (calls ++ more) :=
  fun connection request waits => connectionsMade_append (h connection request waits)

theorem Client.Operated.plain {calls : List Call} {c c' : Client} (h : Operated calls c c') :
    ∀ call ∈ calls, call.IsPlain := by
  cases current : c.service.connection with
  | none =>
    rw [h.disabled current]
    exact List.forall_mem_nil _
  | some connection =>
    exact fun call member => (h.enabled connection current call member).toIsPlain

/-- The connection of a client has been handed over to it. -/
theorem Client.Accounted.made {c : Client} (h : c.Accounted) {connection : Connection}
    (current : c.service.connection = some connection) :
    connection.number ∈ connectionsMade c.store.calls := by
  have held := h.ledger.held
  rw [current] at held
  have isOpen : connection.number ∈ connectionsOpen c.store.calls :=
    held ▸ List.mem_singleton_self _
  exact (mem_connectionsOpen.mp isOpen).1

/-- The steps with one service: operations, lifecycle, probes, and plans for the store. -/
def Step.isOfService : Step → Bool
  | enable .. | shutdown _ | openCursor .. | nextRow _ | closeCursor _ => true
  | next => next.isWork

namespace Session

/-- What holds of a session with one service, known by a name, between its steps. -/
structure Sound (member : String) (s : Session) (c : Client) : Prop where
  alone : s.hub.clients = [c]
  bound : s.members.get? member = some (.service 0)
  accounted : c.Accounted
  cursors : ∀ name id cursor, s.cursors.get? name = some (id, cursor) →
    id = 0 ∧ cursor.OnMade c.store.calls

/-- The calls that a step may make in a session, and what they do to the client. -/
def Moves (s : Session) (c c' : Client) : Step → Prop
  | .enable .. | .shutdown _ => Client.Reconnected c c'
  | .nextRow name => match s.cursors.get? name with
    | none => c' = c
    | some (_, cursor) => ∃ outcome calls, Client.After calls c c' ∧
        Client.Stepped cursor outcome calls
  | .closeCursor _ => ∃ calls, Client.After calls c c' ∧ ∀ call ∈ calls, call.IsOnScanner
  | _ => Client.Worked c c'

/-- The sessions that begin with the making of a service and go on with steps of it. -/
inductive Reached (member : String) : Session → Prop
  | created {files : Files} {environment : Environment} {name : String} {settings : SettingsSource}
      {backend : Backend} {filters : Filter.Table} {reply : Reply} {s : Session}
      (created : step (.createService member name settings backend filters)
        { hub := { files, environment } } = (.ok reply, s)) : Reached member s
  | step {s : Session} {next : Step} (before : Reached member s) (ofService : next.isOfService) :
      Reached member (step next s).2

namespace Sound

variable {member : String} {s s' : Session} {c c' : Client}

theorem created {files : Files} {environment : Environment} {name : String}
    {settings : SettingsSource} {backend : Backend} {filters : Filter.Table} {reply : Reply}
    (created : Session.step (.createService member name settings backend filters)
      { hub := { files, environment } } = (.ok reply, s)) :
    ∃ c, Sound member s c ∧ c.service.connection = none ∧ c.store.calls = [] := by
  obtain ⟨_, _, got, rest⟩ := Action.bind_eq_ok_iff.mp created
  cases got
  obtain ⟨given, t, settled, rest⟩ := Action.bind_eq_ok_iff.mp rest
  obtain ⟨-, rfl⟩ := Action.ofExcept_eq_ok_iff.mp settled
  obtain ⟨id, t, made, rest⟩ := Action.bind_eq_ok_iff.mp rest
  cases rest
  rcases ran : Hub.createService name ⟨given, none⟩ backend filters { files, environment } with
    ⟨outcome, hub⟩
  rw [onHub_eq ran] at made
  cases made
  obtain ⟨service, t, isNew, rest⟩ := Action.bind_eq_ok_iff.mp ran
  obtain ⟨isService, rfl⟩ := Action.ofExcept_eq_ok_iff.mp isNew
  cases rest
  have unconnected : service.connection = none := by rw [Service.create_eq isService]
  refine ⟨⟨service, {}, {}⟩, ⟨rfl, ?_, ⟨?_, ?_⟩, ?_⟩, unconnected, rfl⟩
  · exact OrderedMap.get?_insert_self ..
  · rw [unconnected]
    exact .nil
  · rw [Service.isEnabled, unconnected]
    rfl
  · intro name id cursor found
    cases found

/-- What a step leaves of the session, when the account of the service is in order after it, and
every cursor was there before or waits on a connection that has been handed over. -/
theorem next {more : List Made} (h : Sound member s c) (alone : s'.hub.clients = [c'])
    (members : s'.members = s.members) (accounted : c'.Accounted)
    (noted : c'.store.calls = c.store.calls ++ more)
    (cursors : ∀ name, s'.cursors.get? name = s.cursors.get? name ∨
      ∃ cursor, s'.cursors.get? name = some (0, cursor) ∧ cursor.OnMade c'.store.calls) :
    Sound member s' c' where
  alone := alone
  bound := members ▸ h.bound
  accounted := accounted
  cursors name id cursor found := by
    rcases cursors name with kept | ⟨new, isNew, onMade⟩
    · obtain ⟨isService, onMade⟩ := h.cursors name id cursor (kept.symm.trans found)
      rw [noted]
      exact ⟨isService, onMade.append⟩
    · cases isNew.symm.trans found
      exact ⟨rfl, onMade⟩

theorem turns_worked (h : Sound member s c) (turned : Turns Client.Worked s s') :
    ∃ c', Sound member s' c' ∧ Client.Worked c c' := by
  obtain ⟨c', alone, calls, operated⟩ := turned.hub c h.alone
  refine ⟨c', ?_, calls, operated⟩
  exact h.next alone turned.members (operated.accounted operated.plain h.accounted) operated.noted
    fun name => .inl (by rw [turned.cursors])

theorem turns_reconnected (h : Sound member s c) (turned : Turns Client.Reconnected s s') :
    ∃ c', Sound member s' c' ∧ Client.Reconnected c c' := by
  obtain ⟨c', alone, reconnected⟩ := turned.hub c h.alone
  obtain ⟨accounted, -, more, noted, -⟩ := reconnected h.accounted
  refine ⟨c', ?_, reconnected⟩
  exact h.next alone turned.members accounted noted fun name => .inl (by rw [turned.cursors])

theorem openCursor (h : Sound member s c) (name service : String) (request : ScanRequest)
    (filter : Option String) :
    ∃ c', Sound member (Session.step (.openCursor name service request filter) s).2 c' ∧
      Client.Worked c c' := by
  obtain ⟨c', alone, ⟨calls, operated⟩, members, cursors⟩ :=
    openCursor_opens name service request filter s c h.alone
  have accounted := operated.accounted operated.plain h.accounted
  refine ⟨c', h.next alone members accounted operated.noted fun other => ?_, calls, operated⟩
  rcases cursors with same | ⟨connection, sent, current, inserted⟩
  · exact .inl (by rw [same])
  · rw [inserted, OrderedMap.get?_insert]
    split
    · refine .inr ⟨_, rfl, ?_⟩
      rintro waits request same
      cases same
      rw [operated.noted]
      exact connectionsMade_append (h.accounted.made current)
    · exact .inl rfl

/-- A cursor that has been asked for a row does not wait, on whatever connection. -/
theorem nextRow (h : Sound member s c) (name : String) :
    ∃ c', Sound member (Session.step (.nextRow name) s).2 c' ∧ Moves s c c' (.nextRow name) := by
  cases found : s.cursors.get? name with
  | none =>
    refine ⟨c, ?_, ?_⟩
    · rw [(cursor_unknown found).1]
      exact h
    · simp only [Moves, found]
  | some entry =>
    obtain ⟨id, cursor⟩ := entry
    obtain ⟨rfl, -⟩ := h.cursors name id cursor found
    obtain ⟨c', outcome, calls, alone, after, stepped, members, cursors⟩ :=
      nextRow_turn h.alone found
    have accounted := after.accounted stepped.plain h.accounted
    refine ⟨c', h.next alone members accounted after.noted fun other => ?_, ?_⟩
    · rw [cursors]
      split
      · exact .inr ⟨_, rfl, fun connection request waits =>
          absurd waits (stepped.unwaiting connection request)⟩
      · exact .inl rfl
    · simp only [Moves, found]
      exact ⟨outcome, calls, after, stepped⟩

theorem closeCursor (h : Sound member s c) (name : String) :
    ∃ c', Sound member (Session.step (.closeCursor name) s).2 c' ∧
      ∃ calls, Client.After calls c c' ∧ ∀ call ∈ calls, call.IsOnScanner := by
  cases found : s.cursors.get? name with
  | none =>
    refine ⟨c, ?_, [], .refl c, List.forall_mem_nil _⟩
    rw [(cursor_unknown found).2]
    exact h
  | some entry =>
    obtain ⟨id, cursor⟩ := entry
    obtain ⟨rfl, -⟩ := h.cursors name id cursor found
    obtain ⟨c', calls, alone, after, onScanner, members, cursors⟩ :=
      closeCursor_turn h.alone found
    have plain : ∀ call ∈ calls, call.IsPlain := fun call member =>
      ((onScanner call member).isOn 0).toIsPlain
    have accounted := after.accounted plain h.accounted
    refine ⟨c', h.next alone members accounted after.noted fun other => ?_,
      calls, after, onScanner⟩
    rw [cursors]
    split
    · refine .inr ⟨_, rfl, fun _ _ waits => ?_⟩
      cases waits
    · exact .inl rfl

/-- Every step keeps a session in order. -/
theorem step (h : Sound member s c) {next : Step} (ofService : next.isOfService) :
    ∃ c', Sound member (Session.step next s).2 c' ∧ Moves s c c' next := by
  cases next with
  | enable name racing => exact h.turns_reconnected (enable_reconnects name racing s)
  | shutdown name => exact h.turns_reconnected (shutdown_reconnects name s)
  | openCursor name service request filter => exact h.openCursor name service request filter
  | nextRow name => exact h.nextRow name
  | closeCursor name => exact h.closeCursor name
  | stage | planFault | validate | isEnabled | put | putRow | delete | tableName | scan | details
  | metrics | page => exact h.turns_worked (step_works rfl s)
  | _ => cases ofService

end Sound

theorem Reached.sound {member : String} {s : Session} (reached : Reached member s) :
    ∃ c, Sound member s c := by
  induction reached with
  | created created =>
    obtain ⟨c, sound, -⟩ := Sound.created created
    exact ⟨c, sound⟩
  | step before ofService ih =>
    obtain ⟨c, sound⟩ := ih
    obtain ⟨c', sound', -⟩ := sound.step ofService
    exact ⟨c', sound'⟩

/-! What the probes and the metrics tell. -/

/-- The path of a page leads to it. -/
theorem location_of_route (route : Route) :
    ∃ location, Location.ofText route.path = .ok location ∧
      Route.ofLocation? location = some route := by
  refine ⟨⟨[], "localhost".toList, route.path.toList⟩, ?_, ?_⟩
  · cases route <;> rfl
  · cases route <;> rfl

namespace Sound

variable {member : String} {s : Session} {c : Client}

theorem findService (h : Sound member s c) : Session.findService member s = (.ok 0, s) := by
  have found : find member s = (.ok (.service 0), s) := by
    unfold find
    rw [Action.get_bind, h.bound]
    rfl
  unfold Session.findService
  rw [Action.bind_of_ok found]
  rfl

theorem service (h : Sound member s c) : s.hub.service? 0 = some c.service := by
  obtain ⟨services, -⟩ := Hub.services_of_alone h.alone
  rw [Hub.service?, services]
  rfl

/-- A page other than the one of the metrics is about the service. -/
theorem page (h : Sound member s c) (route : Route) (notMetrics : route ≠ .metrics) :
    ∃ location, Route.ofLocation? location = some route ∧
      (Session.step (.page (some member) route.path) s).1 =
        .ok (.page (Page.ofLocation (some c.service) (.ok []) location)) := by
  obtain ⟨location, isLocation, isRoute⟩ := location_of_route route
  refine ⟨location, isRoute, ?_⟩
  have shared : sharedService (some member) s = (.ok (some 0), s) := by
    show (Session.findService member >>= fun id => pure (some id)) s = _
    rw [Action.bind_of_ok h.findService]
    rfl
  have shown : Hub.page (some 0) route.path s.hub =
      (.ok (Page.ofLocation (some c.service) (.ok []) location), s.hub) := by
    unfold Hub.page
    rw [isLocation,
      Action.bind_of_ok (show Action.ofExcept _ s.hub = (.ok location, s.hub) from rfl)]
    dsimp only
    rw [if_neg (by rw [isRoute]; exact fun same => notMetrics (Option.some.inj same))]
    rw [Action.bind_of_ok (show (pure _ : Action Hub _) s.hub = (.ok _, s.hub) from rfl),
      Action.get_bind, ← h.service]
    rfl
  show ((sharedService (some member) >>= fun service => onHub (Hub.page service route.path) >>=
    fun page => pure (Reply.page page)) s).1 = _
  rw [Action.bind_of_ok shared, Action.bind_of_ok (onHub_eq shown)]
  rfl

end Sound

/-- The samples have the gauge once, without labels. -/
theorem mem_samples_gauge (m : Metrics) (n : Nat) :
    ⟨Metrics.nameStart ++ "connection_enabled", [], n⟩ ∈ m.samples ↔
      n = m.connectionEnabled.toNat := by
  have labelled : ∀ series, (Metrics.describe series).2 ≠ [] := by
    intro series
    cases series <;> exact List.cons_ne_nil _ _
  unfold Metrics.samples
  rw [List.mem_mergeSort, List.mem_append, List.mem_cons]
  constructor
  · rintro ((gauge | counted) | batched)
    · rw [(Metrics.Sample.mk.inj gauge).2.2]
      cases m.connectionEnabled <;> rfl
    · obtain ⟨entry, -, same⟩ := List.mem_map.mp counted
      exact absurd (Metrics.Sample.mk.inj same).2.1 (labelled entry.1)
    · obtain ⟨entry, -, sample⟩ := List.mem_flatMap.mp batched
      simp [Metrics.batchSamples] at sample
  · rintro rfl
    refine .inl (.inl ?_)
    cases m.connectionEnabled <;> rfl

theorem probe_status (usable : Bool) (entries : List (String × Value)) :
    (Page.probe usable entries).status = 200 ↔ usable := by
  cases usable with
  | true => exact iff_of_true rfl rfl
  | false => exact iff_of_false (show ¬ 503 = 200 from nofun) Bool.false_ne_true

theorem health_status (service : Service) :
    (Page.ofService Page.ofHealth (some service)).status = 200 ↔
      service.isEnabled ∧ Config.isValid service.settings := by
  unfold Page.ofService Config.isValid
  rw [Option.mapM_some, Service.details, Service.validate]
  cases Config.validate service.settings with
  | error e => exact iff_of_false nofun fun ⟨_, valid⟩ => Bool.false_ne_true valid
  | ok verdict =>
    refine (probe_status ..).trans ?_
    show (verdict.reason?.isNone && service.isEnabled) = true ↔ _
    rw [Bool.and_eq_true, and_comm]
    cases verdict <;> rfl

/-- At any time the one open connection is the one of the service if it is enabled, and there is
none otherwise; none is closed twice. The gauge and the readiness probe tell whether the service is
enabled, and the health probe whether its settings are valid besides. -/
theorem connection_accounted {member : String} {s : Session} (reached : Reached member s) :
    ∃ c, s.hub.clients = [c] ∧
      connectionsOpen c.store.calls = (c.service.connection.map (·.number)).toList ∧
      (connectionsOpen c.store.calls).length = c.service.isEnabled.toNat ∧
      (connectionsClosed c.store.calls).Nodup ∧
      (step (.isEnabled member) s).1 = .ok (.flag c.service.isEnabled) ∧
      (∀ n, ⟨Metrics.nameStart ++ "connection_enabled", [], n⟩ ∈ c.metrics.samples ↔
        n = c.service.isEnabled.toNat) ∧
      (∃ page, (step (.page (some member) Route.ready.path) s).1 = .ok (.page page) ∧
        (page.status = 200 ↔ c.service.isEnabled)) ∧
      ∃ page, (step (.page (some member) Route.health.path) s).1 = .ok (.page page) ∧
        (page.status = 200 ↔ c.service.isEnabled ∧ Config.isValid c.service.settings) := by
  obtain ⟨c, sound⟩ := reached.sound
  obtain ⟨ready, isReady, shown⟩ := sound.page .ready nofun
  obtain ⟨health, isHealth, shown'⟩ := sound.page .health nofun
  refine ⟨c, sound.alone, sound.accounted.ledger.held, ?_, sound.accounted.ledger.once, ?_, ?_,
    ⟨_, shown, ?_⟩, ⟨_, shown', ?_⟩⟩
  · rw [sound.accounted.ledger.held, Service.isEnabled]
    cases c.service.connection <;> rfl
  · obtain ⟨hub, ran, -⟩ := onHub_of_alone sound.alone
      (do return Reply.flag (← Action.get).service.isEnabled : Action Client Reply)
    show (isEnabled member s).1 = _
    unfold isEnabled onService
    rw [Action.bind_of_ok sound.findService, ran]
    rfl
  · intro n
    rw [mem_samples_gauge, sound.accounted.gauge]
  · unfold Page.ofLocation
    rw [isReady]
    exact probe_status ..
  · unfold Page.ofLocation
    rw [isHealth]
    exact health_status c.service

/-- A service is enabled twice at the same time, and the surplus connection cannot be closed without
a fault. -/
theorem connection_accounted_surplus :
    let settings : Settings := .ofList [("confFiles", .text "hbase-site.xml")]
    let fault : Planned := ⟨0, .collaborator "OSError" "gone"⟩
    let created := (step (.createService "s" "svc" (.given settings) .direct ∅) {}).2
    let enabled := (step (.enable "s" true) (step (.planFault .close (some fault)) created).2).2
    Reached "s" enabled ∧ ∃ c, enabled.hub.clients = [c] ∧
      connectionsMade c.store.calls = [2, 1] ∧ connectionsClosed c.store.calls = [1] ∧
      (connectionsOpen c.store.calls).length = 1 := by
  intro settings fault created enabled
  have made : Reached "s" created :=
    @Reached.created "s" {} (fun _ => none) "svc" (.given settings) .direct ∅ _ _ rfl
  have reached : Reached "s" enabled := .step (.step made rfl) rfl
  obtain ⟨c, alone, -, count, -⟩ := connection_accounted reached
  have isEnabled : [true] = [c.service.isEnabled] :=
    congrArg (List.map fun c : Client => c.service.isEnabled) alone
  have isMade : [[2, 1]] = [connectionsMade c.store.calls] :=
    congrArg (List.map fun c : Client => connectionsMade c.store.calls) alone
  have isClosed : [[1]] = [connectionsClosed c.store.calls] :=
    congrArg (List.map fun c : Client => connectionsClosed c.store.calls) alone
  refine ⟨reached, c, alone, (List.singleton_inj.mp isMade).symm,
    (List.singleton_inj.mp isClosed).symm, ?_⟩
  rw [count, ← List.singleton_inj.mp isEnabled]
  rfl

end Session
end WideColumn
