import WideColumn.Proofs.Service.Connection
import WideColumn.Proofs.Service.Cursor
import WideColumn.Proofs.Service.Hub
import WideColumn.Stream.Setup

/-! What the making of a publisher or a subscriber leaves open when it fails. A service that is made
for it is enabled between two groups of checks; a fault of a later check leaves the connection of
that service open, and nobody has the service. -/
namespace WideColumn

namespace Client

/-! Enabling a new service. -/

/-- What enabling comes to that no one else takes part in: a fault, and no call has been made; or
one connection has been handed over, and it is the one of the service. -/
def EnabledAlone (c : Client) (ran : Except Fault Unit × Client) : Prop :=
  (∃ e, ran.1 = .error e ∧ ran.2.store.calls = c.store.calls) ∨
    ∃ connection : Connection, ran.1 = .ok () ∧
      ran.2.store.calls = c.store.calls ++ [⟨.connected connection.number, none⟩] ∧
      ran.2.service = { c.service with connection := some connection, wasEnabled := true }

theorem enable_alone (files : Files) {c : Client} (fresh : c.service.connection = none) :
    EnabledAlone c (enable files c) := by
  have disabled : c.service.isEnabled = false := by
    rw [Service.isEnabled, fresh]
    rfl
  unfold enable enableWith
  rw [Action.get_bind, disabled, if_neg Bool.false_ne_true]
  rcases c.service.validate with e | invalid | ⟨⟩
  · exact .inl ⟨_, rfl, rfl⟩
  · exact .inl ⟨_, rfl, rfl⟩
  · obtain ⟨kept, calls⟩ := connect_alone files c
    rcases ran : connect files (pure ()) c with ⟨e | connection, c'⟩
    · rw [ran] at calls
      have same : c'.store.calls = c.store.calls := calls.trans (List.append_nil _)
      dsimp only
      rw [Action.bind_of_ok (attempt_of_eq ran)]
      left
      dsimp only
      split
      · exact ⟨e, rfl, same⟩
      · exact ⟨_, rfl, same⟩
    · rw [ran] at kept calls
      have still : c'.service = c.service := kept
      have handed : c'.store.calls = c.store.calls ++ [⟨.connected connection.number, _⟩] := calls
      have published := publish_eq connection c'
      rw [still, disabled, if_neg Bool.false_ne_true] at published
      dsimp only
      rw [Action.bind_of_ok (attempt_of_eq ran)]
      dsimp only
      rw [published]
      refine .inr ⟨connection, rfl, ?_, rfl⟩
      rw [fresh] at handed
      exact handed

end Client

namespace Stream

/-- What comes of settling who serves: no call and no service of its own; or a service of its own,
the last one, with the functions that every service knows, and one connection has been handed over
to it. -/
def Supplied (hub : Hub) (ran : Except Fault Supplier × Hub) : Prop :=
  (ran.2.store.calls = hub.store.calls ∧ ∀ id, ran.1 ≠ .ok (.owned id)) ∨
    ∃ (service : Service) (n : Nat), ran.1 = .ok (.owned hub.services.length) ∧
      ran.2.services = hub.services ++ [service] ∧ service.filters = Filter.Table.default ∧
      service.connection.map (·.number) = some n ∧
      ran.2.store.calls = hub.store.calls ++ [⟨.connected n, none⟩]

theorem makeService_supplied (name settings : Value) (hub : Hub) :
    Supplied hub (makeService name settings hub) := by
  unfold makeService
  cases name.shownText.mapError Fault.ofInteger with
  | error e => exact .inl ⟨rfl, nofun⟩
  | ok label =>
    cases (GivenSettings.ofValue settings).mapError Fault.mismatch with
    | error e => exact .inl ⟨rfl, nofun⟩
    | ok given =>
      rw [Action.bind_of_ok (show Action.ofExcept (.ok label) hub = (.ok label, hub) from rfl),
        Action.bind_of_ok (show Action.ofExcept (.ok given) hub = (.ok given, hub) from rfl)]
      have creation := Hub.createService_eq (label ++ "_client") given .gateway
        Filter.Table.default hub
      cases created : Service.create (label ++ "_client") given .gateway Filter.Table.default with
      | error e =>
        rw [created] at creation
        rw [Action.bind_of_error creation]
        exact .inl ⟨rfl, nofun⟩
      | ok service =>
        rw [created] at creation
        rw [Action.bind_of_ok creation]
        have isNew := Service.create_eq created
        have fresh : service.connection = none := by rw [isNew]
        have enabling := Hub.onService_added hub service (Client.enable hub.files)
        have alone := @Client.enable_alone hub.files ⟨service, hub.store, hub.metrics⟩ fresh
        generalize Client.enable hub.files ⟨service, hub.store, hub.metrics⟩ = ran at enabling alone
        obtain ⟨outcome, c⟩ := ran
        have enabled : Hub.enable hub.services.length
            { hub with services := hub.services ++ [service] } = _ := enabling
        rcases alone with ⟨e, rfl, calls⟩ | ⟨connection, rfl, calls, became⟩
        · rw [Action.bind_of_error enabled]
          exact .inl ⟨calls, nofun⟩
        · rw [Action.bind_of_ok enabled]
          refine .inr ⟨c.service, connection.number, rfl, rfl, ?_, ?_, calls⟩
          · rw [show c.service = _ from became, isNew]
          · rw [show c.service = _ from became]
            rfl

theorem supplierFor_supplied (name : Value) (shared : Option ServiceId) (config : Config)
    (hub : Hub) : Supplied hub (supplierFor name shared config hub) := by
  have without : ∀ known : Except Fault Supplier, (∀ id, known ≠ .ok (.owned id)) →
      Supplied hub (Action.ofExcept known hub) := by
    intro known notOwned
    rw [Action.ofExcept_eq]
    exact .inl ⟨rfl, notOwned⟩
  suffices all : ∀ a, a = supplierFor name shared config → Supplied hub (a hub) from all _ rfl
  unfold supplierFor
  split
  · rintro _ rfl
    exact without (.ok _) nofun
  · rintro _ rfl
    exact without (.error _) nofun
  · rintro _ rfl
    exact makeService_supplied name _ hub
  · rintro _ rfl
    exact without (.ok _) nofun

/-- A service of its own has the name of whom it is made for, which has a text. -/
theorem shownText_of_owned {name : Value} {shared : Option ServiceId} {config : Config} {hub : Hub}
    {id : ServiceId} (owned : (supplierFor name shared config hub).1 = .ok (.owned id)) :
    ∃ label, name.shownText = .ok label := by
  suffices all : ∀ a, a = supplierFor name shared config → (a hub).1 = .ok (.owned id) →
      ∃ label, name.shownText = .ok label from all _ rfl owned
  clear owned
  unfold supplierFor
  split
  · rintro _ rfl ⟨⟩
  · rintro _ rfl ⟨⟩
  · rintro _ rfl made
    rw [makeService, Action.outcome_ofExcept_bind] at made
    obtain ⟨label, named, -⟩ := bind_eq_ok_iff.mp made
    exact ⟨label, mapError_eq_ok_iff.mp named⟩
  · rintro _ rfl ⟨⟩

/-! What is checked. -/

/-- What is checked of a publisher after its service has been enabled. -/
def publisherCheck (config : Config) : Except Fault Unit :=
  let interval := config.entryOr "publish_interval" (.whole 0)
  if interval.isNumber then .ok () else .error (.mismatch (.notOrdered ">" interval.typeName "int"))

/-- What is checked of a subscriber before its service is made. -/
def subscriberCheck (name address : Value) (config : Config) : Except Fault Unit := do
  let _ ← announce name address
  let _ ← parseTable address
  let _ ← config.columns.mapError .mismatch
  return

/-- What is checked of a subscriber after its service has been enabled: its filter, by the
functions that every service knows, and its least timestamp. -/
def feedCheck (config : Config) : Except Fault Unit := do
  let filter ← config.filter.mapError .mismatch
  let text := filter.getD ""
  let _ ← (Filter.parse Filter.Table.default text.toList).mapError (.ofFilter text)
  let _ ← (config.entryOr "min_timestamp" (.whole 0)).toInteger.mapError .number
  return

/-- The ways to make a publisher or a subscriber, with what is checked before it has a service and
after that. -/
inductive Creates (name : Value) (shared : Option ServiceId) (config : Config) :
    {α : Type} → Action Hub α → (before after : Except Fault Unit) → Prop
  | publisher (address : Value) : Creates name shared config
      (TablePublisher.create name address shared config)
      (do let _ ← parseTable address) (publisherCheck config)
  | publisherOfConfig : Creates name shared config (TablePublisher.ofConfig name shared config)
      (do
        (checkName name).mapError .setup
        let address ← addressOf config "destination" .noDestination
        let _ ← parseTable address) (publisherCheck config)
  | subscriber (address : Value) : Creates name shared config
      (TableSubscriber.create name address shared config)
      (subscriberCheck name address config) (feedCheck config)
  | subscriberOfConfig : Creates name shared config (TableSubscriber.ofConfig name shared config)
      (do
        (checkName name).mapError .setup
        let address ← addressOf config "source" .noSource
        subscriberCheck name address config) (feedCheck config)

variable {α β : Type} {supplier : Action Hub Supplier} {a : Action Hub α}
  {before after : Except Fault Unit}

/-- How something is made that needs a service: it is checked first, then it is settled who serves,
and what is done after that only reads. With a service of its own that knows the usual functions, it
comes to what the second check does. -/
structure Assembles (supplier : Action Hub Supplier) (a : Action Hub α)
    (before after : Except Fault Unit) : Prop where
  refused : ∀ e, before = .error e → ∀ hub, a hub = (.error e, hub)
  granted : before = .ok () → ∃ rest : Supplier → Action Hub α, a = supplier >>= rest ∧
    (∀ s, (rest s).Reads) ∧
    ∀ start hub id service, (supplier start).1 = .ok (.owned id) →
      hub.services[id]? = some service → service.filters = Filter.Table.default →
      (rest (.owned id) hub).1.map (fun _ => ()) = after

namespace Assembles

theorem checked {check : Except Fault β} {f : β → Action Hub α} {g : β → Except Fault Unit}
    (h : ∀ x, check = .ok x → Assembles supplier (f x) (g x) after) :
    Assembles supplier (Action.ofExcept check >>= f) (check >>= g) after := by
  cases check with
  | error refusal =>
    refine ⟨fun e fails hub => ?_, nofun⟩
    cases fails
    rfl
  | ok x => exact h x rfl

end Assembles

/-- A name is announced where both it and the address have texts, and an address of a table has. -/
theorem announce_eq {name address : Value} {label table : String}
    (named : name.shownText = .ok label) (parsed : parseTable address = .ok table) :
    announce name address = .ok label := by
  obtain ⟨text, isText, -⟩ := bind_eq_ok_iff.mp parsed
  cases address with
  | text s =>
    rw [announce, named]
    rfl
  | _ => cases isText

theorem publisherCheck_eq (name address : Value) (config : Config) :
    ((Publisher.create name address config).mapError Fault.mismatch).map (fun _ => ()) =
      publisherCheck config := by
  unfold Publisher.create publisherCheck Config.entryOr
  dsimp only
  split
  · rfl
  · rfl

theorem TablePublisher.create_assembles (name address : Value) (shared : Option ServiceId)
    (config : Config) : Assembles (supplierFor name shared config)
      (TablePublisher.create name address shared config) (do let _ ← parseTable address)
      (publisherCheck config) := by
  refine .checked fun table parsed => ⟨nofun, fun _ => ⟨_, rfl, fun s => ?_, ?_⟩⟩
  · exact .bind (.ofExcept _) fun _ => .bind (.ofExcept _) fun _ => .pure _
  · intro start hub id service owned _ _
    obtain ⟨label, named⟩ := shownText_of_owned owned
    rw [Action.outcome_ofExcept_bind, ← publisherCheck_eq name address config,
      announce_eq named parsed]
    cases (Publisher.create name address config).mapError Fault.mismatch with
    | error e => rfl
    | ok publisher => rfl

theorem Supplier.work_reads {a : Action Client α} (reads : a.Reads) (s : Supplier)
    (operation : String) : (s.work operation a).Reads := by
  cases s with
  | shared service => exact Hub.onService_reads reads service
  | owned service => exact Hub.onService_reads reads service
  | unfit typeName => exact .fail _

theorem checkFilter_reads (s : Supplier) (config : Config) : (checkFilter s config).Reads :=
  Supplier.work_reads (.bind (.ofExcept _) fun _ => .bind (Client.parseFilter_reads _) fun _ =>
    .pure _) s _

/-- What the filter of a configuration comes to at a service that knows the usual functions. -/
theorem checkFilter_outcome {hub : Hub} {id : ServiceId} {service : Service}
    (known : hub.services[id]? = some service) (filters : service.filters = Filter.Table.default)
    (config : Config) : (checkFilter (.owned id) config hub).1 = do
      let filter ← config.filter.mapError .mismatch
      let _ ← (Filter.parse Filter.Table.default (filter.getD "").toList).mapError
        (.ofFilter (filter.getD ""))
      return filter := by
  rw [show checkFilter (.owned id) config hub = _ from Hub.onService_of_known known _]
  dsimp only
  rw [Action.outcome_ofExcept_bind]
  refine congrArg _ (funext fun filter => ?_)
  rw [Action.outcome_bind (Client.parseFilter_reads filter), Client.parseFilter_eq, filters]
  rfl

theorem TableSubscriber.create_assembles (name address : Value) (shared : Option ServiceId)
    (config : Config) : Assembles (supplierFor name shared config)
      (TableSubscriber.create name address shared config) (subscriberCheck name address config)
      (feedCheck config) := by
  refine .checked fun label _ => .checked fun table _ => .checked fun columns _ =>
    ⟨nofun, fun _ => ⟨_, rfl, fun s => ?_, ?_⟩⟩
  · exact .bind (checkFilter_reads s config) fun _ => .bind (.ofExcept _) fun _ => .pure _
  · intro start hub id service _ known filters
    rw [Action.outcome_bind (checkFilter_reads _ config), checkFilter_outcome known filters,
      feedCheck]
    cases config.filter.mapError Fault.mismatch with
    | error e => rfl
    | ok filter =>
      dsimp only [bind, Except.bind]
      cases (Filter.parse Filter.Table.default (filter.getD "").toList).mapError
        (Fault.ofFilter (filter.getD "")) with
      | error e => rfl
      | ok node =>
        show ((Action.ofExcept _ >>= _ : Action Hub TableSubscriber) hub).1.map _ = _
        rw [Action.outcome_ofExcept_bind]
        cases (config.entryOr "min_timestamp" (.whole 0)).toInteger.mapError Fault.number with
        | error e => rfl
        | ok n => rfl

theorem Creates.assembles {name : Value} {shared : Option ServiceId} {config : Config}
    (creates : Creates name shared config a before after) :
    Assembles (supplierFor name shared config) a before after := by
  cases creates with
  | publisher address => exact TablePublisher.create_assembles name address shared config
  | publisherOfConfig =>
    exact .checked fun _ _ => .checked fun address _ =>
      TablePublisher.create_assembles name address shared config
  | subscriber address => exact TableSubscriber.create_assembles name address shared config
  | subscriberOfConfig =>
    exact .checked fun _ _ => .checked fun address _ =>
      TableSubscriber.create_assembles name address shared config

/-- Making a publisher or a subscriber fails and leaves a connection open if and only if the first
check lets it pass, a service is made for it, and the second check does not: of a publisher's
interval, or of a subscriber's filter and least timestamp. A connection that is left open is the one
of that service, the newest of the hub, and the fault is the one of the second check. -/
theorem creation_leaves_open {name : Value} {shared : Option ServiceId} {config : Config}
    (creates : Creates name shared config a before after) (hub : Hub) :
    ∃ made, (a hub).2.store.calls = hub.store.calls ++ made ∧
      ((∃ e, (a hub).1 = .error e) ∧ connectionsOpen made ≠ [] ↔
        before = .ok () ∧ (∃ e, after = .error e) ∧
          ∃ id, (supplierFor name shared config hub).1 = .ok (.owned id)) ∧
      ∀ n ∈ connectionsOpen made, (a hub).1.map (fun _ => ()) = after ∧
        ∃ service, (a hub).2.services = hub.services ++ [service] ∧
          service.connection.map (·.number) = some n := by
  obtain ⟨refused, granted⟩ := creates.assembles
  cases checked : before with
  | error refusal =>
    rw [refused refusal checked hub]
    refine ⟨[], (List.append_nil _).symm, iff_of_false ?_ nofun, nofun⟩
    exact fun opened => opened.2 rfl
  | ok =>
    obtain ⟨rest, rfl, reads, served⟩ := granted checked
    rw [Action.state_bind reads]
    have supplied := supplierFor_supplied name shared config hub
    rcases ran : supplierFor name shared config hub with ⟨outcome, hub'⟩
    rw [ran] at supplied
    rcases supplied with ⟨calls, notOwned⟩ | ⟨service, n, rfl, services, filters, has, calls⟩
    · refine ⟨[], calls.trans (List.append_nil _).symm, iff_of_false ?_ ?_, nofun⟩
      · exact fun opened => opened.2 rfl
      · rintro ⟨-, -, id, owned⟩
        exact notOwned id owned
    · have known : hub'.services[hub.services.length]? = some service := by
        rw [show hub'.services = _ from services, List.getElem?_concat_length]
      have late := served hub hub' hub.services.length service (by rw [ran]) known filters
      rw [Action.bind_of_ok ran]
      refine ⟨_, calls, ?_, fun m isOpen => ⟨late, service, services, ?_⟩⟩
      · rw [← late]
        constructor
        · rintro ⟨⟨e, fails⟩, -⟩
          exact ⟨rfl, ⟨e, map_eq_error_iff.mpr fails⟩, _, rfl⟩
        · rintro ⟨-, ⟨e, fails⟩, -⟩
          exact ⟨⟨e, map_eq_error_iff.mp fails⟩, List.cons_ne_nil n []⟩
      · obtain rfl : m = n := List.mem_singleton.mp isOpen
        exact has

/-- A subscriber with properties of its own, whose filter is none that its service knows. -/
theorem creation_leaves_open_unknown_filter :
    let properties : Value := .dict [(.text "zkQuorum", .text "zk1"),
      (.text "zkClientPort", .text "2181"), (.text "zkZnodeParent", .text "/hbase")]
    let config : Config :=
      .ofList [("hbase_properties", properties), ("filter", .text "nonsense")]
    let creation := TableSubscriber.create (.text "quotes") (.text "hbase://t") none config
    (∃ e, (creation {}).1 = .error e) ∧ connectionsOpen (creation {}).2.store.calls ≠ [] := by
  intro properties config creation
  have creates : Creates (.text "quotes") none config creation
      (subscriberCheck (.text "quotes") (.text "hbase://t") config) (feedCheck config) := .subscriber _
  have early : subscriberCheck (.text "quotes") (.text "hbase://t") config = .ok () := rfl
  have owned : (supplierFor (.text "quotes") none config {}).1 = .ok (.owned 0) := rfl
  obtain ⟨e, late⟩ : ∃ e, feedCheck config = .error e := by
    have fails : (feedCheck config).toBool = false := by decide +kernel
    generalize feedCheck config = checked at fails
    cases checked with
    | error e => exact ⟨e, rfl⟩
    | ok => cases fails
  clear_value creation
  obtain ⟨made, calls, leaves, -⟩ := creation_leaves_open creates {}
  obtain ⟨failed, opened⟩ := leaves.mpr ⟨early, ⟨e, late⟩, 0, owned⟩
  refine ⟨failed, ?_⟩
  rw [calls]
  exact opened
end Stream
end WideColumn
