import WideColumn.Proofs.Session.Single
import WideColumn.Proofs.Stream.Keeping

/-! What the steps of a session leave alone. What is observed of a client at work is observed of the
whole hub, so an observation that no client changes, unless it puts or scans, is changed by no step
but one that puts or scans. -/
namespace WideColumn

open WideColumn.Action (Keeps)

variable {α γ : Type}

namespace Step

def isScan : Step → Bool
  | scan .. => true
  | _ => false

/-- Whether a step may put. -/
def isWrite : Step → Bool
  | put .. | putRow .. | publish .. | flush .. | tick .. | stop .. => true
  | _ => false

end Step

/-- The series that publishers and subscribers count. -/
def Series.isOfStreams : Series → Bool
  | published .. | received .. => true
  | puts .. | putDuration _ | rowsWritten _ | cellsWritten _ | scans .. | scanDuration _
  | rowsRead _ | cellsRead _ | errors .. => false

/-- An observation of clients and one of hubs. The one of a hub stays as it is when the one of the
client does that is at work there, and nothing else that is done with a hub changes it. Of what
clients do, only putting and scanning may change it; polling does not. -/
structure Watch (γ : Type) where
  ofClient : Client → γ
  ofHub : Hub → γ
  works : ∀ {h : Hub} {id : ServiceId} {service : Service} {c : Client},
    h.services[id]? = some service → ofClient c = ofClient ⟨service, h.store, h.metrics⟩ →
      ofHub (h.withClient id c) = ofHub h
  stored : ∀ (h : Hub) {store : Store}, store.puts = h.store.puts →
    ofHub { h with store } = ofHub h
  added : ∀ (h : Hub) {name : String} {given : GivenSettings} {backend : Backend}
    {filters : Filter.Table} {service : Service},
    Service.create name given backend filters = .ok service →
      ofHub { h with services := h.services ++ [service] } = ofHub h
  streamed : ∀ (h : Hub) {s : Series} (n : Nat), s.isOfStreams →
    ofHub { h with metrics := h.metrics.add s n } = ofHub h
  enable : ∀ files, Keeps ofClient (Client.enable files)
  enableRacing : ∀ files, Keeps ofClient (Client.enableRacing files)
  shutdown : Keeps ofClient Client.shutdown
  delete : ∀ table row, Keeps ofClient (Client.delete table row)
  tableName : ∀ table, Keeps ofClient (Client.tableName table)
  next : ∀ cursor, Keeps ofClient (Client.next cursor)
  closeCursor : ∀ cursor, Keeps ofClient (Client.closeCursor cursor)
  poll : ∀ request filter, Keeps ofClient (Client.scan request filter fun _ _ => .ok [])

namespace Watch

variable (w : Watch γ)

/-- An observation that putting leaves alone too. -/
def SparesPuts : Prop := ∀ table requests, Keeps w.ofClient (Client.put table requests)

def ofSession (s : Session) : γ := w.ofHub s.hub

/-! Hubs. -/

theorem onService_keeps {a : Action Client α} (h : Keeps w.ofClient a) (id : ServiceId) :
    Keeps w.ofHub (Hub.onService id a) := by
  intro hub
  cases found : hub.services[id]? with
  | none =>
    unfold Hub.onService
    rw [found]
  | some service =>
    rw [Hub.onService_of_known found]
    exact w.works found (h _)

theorem enable_keeps (id : ServiceId) : Keeps w.ofHub (Hub.enable id) :=
  .bind .get fun h => w.onService_keeps (w.enable h.files) id

theorem enableRacing_keeps (id : ServiceId) : Keeps w.ofHub (Hub.enableRacing id) :=
  .bind .get fun h => w.onService_keeps (w.enableRacing h.files) id

theorem createService_keeps (name : String) (given : GivenSettings) (backend : Backend)
    (filters : Filter.Table) : Keeps w.ofHub (Hub.createService name given backend filters) := by
  intro h
  rw [Hub.createService_eq]
  cases created : Service.create name given backend filters with
  | error e => rfl
  | ok service => exact w.added h created

theorem count_keeps {s : Series} (n : Nat) (ofStreams : s.isOfStreams) :
    Keeps w.ofHub (Hub.count s n) :=
  .modify fun h => w.streamed h n ofStreams

theorem log_keeps (e : Store.Event) : Keeps w.ofHub (Hub.log e) := .modify fun h => w.stored h rfl

theorem collect_keeps : Keeps w.ofHub Hub.collect := by
  intro h
  have puts := h.store.puts_pass .metrics
  unfold Hub.collect
  split
  · next passed => exact w.stored h (by rwa [passed] at puts)
  · next passed => exact w.stored h (by rwa [passed] at puts)

theorem page_keeps (service : Option ServiceId) (location : String) :
    Keeps w.ofHub (Hub.page service location) := by
  refine .bind (.ofExcept _) fun location => ?_
  dsimp only
  split
  · exact .bind (.attempt w.collect_keeps) fun _ => .bind .get fun _ => .pure _
  · exact .bind (.pure _) fun _ => .bind .get fun _ => .pure _

/-! Publishers and subscribers. -/

theorem work_keeps (s : Stream.Supplier) (operation : String) {a : Action Client α}
    (h : Keeps w.ofClient a) : Keeps w.ofHub (s.work operation a) := by
  cases s with
  | shared service => exact w.onService_keeps h service
  | owned service => exact w.onService_keeps h service
  | unfit typeName => exact .fail _

theorem release_keeps (s : Stream.Supplier) : Keeps w.ofHub s.release := by
  cases s with
  | owned service => exact w.onService_keeps w.shutdown service
  | shared service => exact .pure ()
  | unfit typeName => exact .pure ()

theorem put_keeps (puts : w.SparesPuts) (t : Stream.TableSink) (requests : List PutRequest) :
    Keeps w.ofHub (t.put requests) := by
  refine .bind (w.work_keeps t.supplier "put" (puts t.table requests)) fun _ => ?_
  exact .bind (w.count_keeps _ rfl) fun _ => .pure _

theorem sink_isKeeping (puts : w.SparesPuts) (t : Stream.TableSink) :
    t.sink.IsKeeping w.ofHub where
  write data := by
    refine .bind (.ofExcept _) fun request => ?_
    cases request with
    | none => exact .pure 0
    | some request => exact w.put_keeps puts t [request]
  writeBatch writeBatch taken batch := by
    cases taken
    refine .bind (.ofExcept _) fun requests => ?_
    split
    · exact .pure 0
    · exact w.put_keeps puts t _

theorem recorder_isKeeping (refused : Option Value) :
    (Stream.recorder refused).IsKeeping w.ofHub where
  write data := by
    unfold Stream.recorder
    dsimp only
    split
    · exact .bind (.ofExcept _) fun _ => .fail _
    · exact .bind (w.log_keeps _) fun _ => .pure 1
  writeBatch _ taken := by cases taken

/-- What is observed behind a feed. -/
def behindFeed (s : Stream.TableFeed × Hub) : γ := w.ofHub s.2

theorem onFeedHub_keeps {a : Action Hub α} (h : Keeps w.ofHub a) :
    Keeps w.behindFeed (Stream.TableFeed.onHub a) :=
  .onPart (fun _ => rfl) (fun _ _ => rfl) h

theorem poll_keeps : Keeps w.behindFeed Stream.TableFeed.poll := by
  refine .bind .get fun s => ?_
  have scan := w.poll s.1.request s.1.filter
  refine .bind (w.onFeedHub_keeps (w.work_keeps s.1.supplier "scan" scan)) fun rows => ?_
  refine .bind (.ofExcept _) fun records => ?_
  refine .bind (.modify fun _ => rfl) fun _ => ?_
  dsimp only
  split
  · exact .bind (w.onFeedHub_keeps (w.count_keeps _ rfl)) fun _ => .pure _
  · exact .pure _

theorem takePending_keeps {otherwise : Action (Stream.TableFeed × Hub) Stream.Fetched}
    (h : Keeps w.behindFeed otherwise) :
    Keeps w.behindFeed (Stream.TableFeed.takePending otherwise) := by
  refine .bind .get fun s => ?_
  dsimp only
  split
  · exact h
  · exact .bind (.modify fun _ => rfl) fun _ => .pure _

theorem feed_keeps : Keeps w.behindFeed Stream.TableFeed.source.next := by
  refine w.takePending_keeps (.bind (.attempt w.poll_keeps) fun _ => w.takePending_keeps ?_)
  exact .bind .get fun s => .bind (w.onFeedHub_keeps (w.log_keeps _)) fun _ => .pure _

theorem prepared_keeps :
    Keeps (fun s : List Stream.Prepared × Hub => w.ofHub s.2) Stream.Prepared.source.next := by
  refine .bind .get fun s => ?_
  dsimp only
  split
  · exact .pure _
  · exact .bind (.modify fun _ => rfl) fun _ => .ofExcept _

theorem supplierFor_keeps (name : Value) (shared : Option ServiceId) (config : Stream.Config) :
    Keeps w.ofHub (Stream.supplierFor name shared config) := by
  unfold Stream.supplierFor
  split
  · exact .pure _
  · exact .fail _
  · refine .bind (.ofExcept _) fun label => .bind (.ofExcept _) fun given => ?_
    refine .bind (w.createService_keeps _ _ _ _) fun service => ?_
    exact .bind (w.enable_keeps service) fun _ => .pure _
  · exact .pure _

theorem createPublisher_keeps (name address : Value) (shared : Option ServiceId)
    (config : Stream.Config) :
    Keeps w.ofHub (Stream.TablePublisher.create name address shared config) :=
  .bind (.ofExcept _) fun _ => .bind (w.supplierFor_keeps name shared config) fun _ =>
    .bind (.ofExcept _) fun _ => .bind (.ofExcept _) fun _ => .pure _

theorem createSubscriber_keeps (name address : Value) (shared : Option ServiceId)
    (config : Stream.Config) :
    Keeps w.ofHub (Stream.TableSubscriber.create name address shared config) := by
  refine .bind (.ofExcept _) fun label => ?_
  refine .bind (.ofExcept _) fun table => .bind (.ofExcept _) fun columns => ?_
  refine .bind (w.supplierFor_keeps name shared config) fun supplier => .bind ?_ fun filter => ?_
  · refine w.work_keeps supplier "scan_executor" ?_
    refine .bind (.ofExcept _) fun filter => ?_
    exact .bind (.of_reads (Client.parseFilter_reads filter)) fun _ => .pure _
  · exact .bind (.ofExcept _) fun _ => .pure _

theorem publisherOfConfig_keeps (name : Value) (shared : Option ServiceId)
    (config : Stream.Config) : Keeps w.ofHub (Stream.TablePublisher.ofConfig name shared config) :=
  .bind (.ofExcept _) fun _ => .bind (.ofExcept _) fun address =>
    w.createPublisher_keeps name address shared config

theorem subscriberOfConfig_keeps (name : Value) (shared : Option ServiceId)
    (config : Stream.Config) :
    Keeps w.ofHub (Stream.TableSubscriber.ofConfig name shared config) :=
  .bind (.ofExcept _) fun _ => .bind (.ofExcept _) fun address =>
    w.createSubscriber_keeps name address shared config

/-! Sessions. -/

open Session (onHub find_reads findService_reads onHub_reads isEnabled_reads details_reads
  validate_reads sharedService_reads bindName updateSubscriber findCursor_reads)

theorem onHub_keeps {a : Action Hub α} (h : Keeps w.ofHub a) : Keeps w.ofSession (onHub a) :=
  .onPart (fun _ => rfl) (fun _ _ => rfl) h

theorem ofMember_keeps {a : Action Client α} (h : Keeps w.ofClient a) (name : String) :
    Keeps w.ofSession (Session.onService name a) :=
  .bind (.of_reads (findService_reads name)) fun id => w.onHub_keeps (w.onService_keeps h id)

theorem onPublisher_keeps (puts : w.SparesPuts)
    {a : Stream.Sink Hub → Action (Stream.Publisher × Hub) α}
    (h : ∀ sink : Stream.Sink Hub, sink.IsKeeping w.ofHub →
      Keeps (Stream.Publisher.behind w.ofHub) (a sink)) (name : String) :
    Keeps w.ofSession (Session.onPublisher name a) := by
  refine .bind (.of_reads (find_reads name)) fun member => ?_
  cases member with
  | publisher p =>
    exact .onPart (fun _ => rfl) (fun _ _ => rfl) (h _ (w.sink_isKeeping puts p.table))
  | recorder p refused =>
    exact .onPart (fun _ => rfl) (fun _ _ => rfl) (h _ (w.recorder_isKeeping refused))
  | service | subscriber | prepared => exact .fail _

theorem onSubscriber_keeps
    {a : (σ : Type) → Stream.Source σ → Action (Stream.Subscriber × σ) α}
    (h : ∀ (σ : Type) (observe : σ → γ) (source : Stream.Source σ),
      Keeps observe source.next → Keeps (Stream.Subscriber.behind observe) (a σ source))
    (name : String) : Keeps w.ofSession (Session.onSubscriber name a) := by
  refine .bind (.of_reads (find_reads name)) fun member => ?_
  cases member with
  | subscriber t =>
    exact .onPart (fun _ => rfl) (fun _ _ => rfl) (h _ _ _ w.feed_keeps)
  | prepared p items =>
    exact .onPart (fun _ => rfl) (fun _ _ => rfl) (h _ _ _ w.prepared_keeps)
  | service | publisher | recorder => exact .fail _

theorem onFeed_keeps {a : Action (Stream.TableFeed × Hub) α}
    (h : Keeps w.behindFeed a) (name : String) : Keeps w.ofSession (Session.onFeed name a) := by
  refine .bind (.of_reads (find_reads name)) fun member => ?_
  cases member with
  | subscriber t => exact .onPart (fun _ => rfl) (fun _ _ => rfl) h
  | service | publisher | recorder | prepared => exact .fail _

theorem updateSubscriber_keeps (name : String) (f : Stream.Subscriber → Stream.Subscriber) :
    Keeps w.ofSession (updateSubscriber name f) :=
  w.onSubscriber_keeps (fun _ _ _ _ _ => rfl) name

theorem subscriber_keeps (name : String) : Keeps w.ofSession (Session.subscriber name) :=
  w.onSubscriber_keeps (fun _ _ _ _ => .bind .get fun _ => .pure _) name

theorem workerAfter_keeps (name : String)
    {a : (σ : Type) → Stream.Source σ → Action (Stream.Subscriber × σ) Unit}
    (h : ∀ (σ : Type) (observe : σ → γ) (source : Stream.Source σ),
      Keeps observe source.next → Keeps (Stream.Subscriber.behind observe) (a σ source)) :
    Keeps w.ofSession (Session.workerAfter name a) :=
  .bind (w.onSubscriber_keeps h name) fun _ => .bind (w.subscriber_keeps name) fun _ => .pure _

theorem bindName_keeps (name : String) (member : Member) :
    Keeps w.ofSession (bindName name member) :=
  .modify fun _ => rfl

theorem closeCursor_keeps (id : ServiceId) (cursor : Cursor) :
    Keeps w.ofSession (onHub (Hub.onService id (Client.closeCursor cursor))) :=
  w.onHub_keeps (w.onService_keeps (w.closeCursor cursor) id)

theorem openCursor_keeps (name member : String) (request : ScanRequest)
    (filter : Option String) :
    Keeps w.ofSession (Session.openCursor name member request filter) := by
  refine .bind (.of_reads (findService_reads member)) fun id => ?_
  have opening := Client.openCursor_reads request filter
  refine .bind (.of_reads (onHub_reads (Hub.onService_reads opening id))) fun cursor => ?_
  refine .bind .get fun s => .bind (.modify fun _ => rfl) fun _ => ?_
  split
  · exact .pure ()
  · exact .bind (.attempt (w.closeCursor_keeps _ _)) fun _ => .pure ()

theorem nextRow_keeps (name : String) : Keeps w.ofSession (Session.nextRow name) := by
  refine .bind (.of_reads (findCursor_reads name)) fun found => ?_
  refine .bind (.modify fun _ => rfl) fun _ => ?_
  refine .bind (w.onHub_keeps (w.onService_keeps (w.next found.2) found.1)) fun _ => ?_
  exact .bind (.modify fun _ => rfl) fun _ => .pure _

theorem stop_keeps (puts : w.SparesPuts) (name : String) :
    Keeps w.ofSession (Session.stop name) := by
  have publisher : Keeps w.ofSession (Session.onPublisher name Stream.Publisher.stop) :=
    w.onPublisher_keeps puts (fun _ h => Stream.Publisher.stop_keeps h) name
  refine .bind (.of_reads (find_reads name)) fun member => ?_
  cases member with
  | publisher p => exact .bind publisher fun _ => w.onHub_keeps (w.release_keeps p.table.supplier)
  | recorder => exact publisher
  | subscriber t =>
    exact .bind (w.updateSubscriber_keeps name _) fun _ =>
      w.onHub_keeps (w.release_keeps t.feed.supplier)
  | prepared => exact w.updateSubscriber_keeps name _
  | service => exact .fail _

/-- A step that does not put leaves the observation alone, and one that does not scan, unless it
spares them. -/
theorem step_keeps {next : Step} (puts : next.isWrite → w.SparesPuts)
    (scans : next.isScan → ∀ request filter refusal,
      Keeps w.ofClient (Client.scan request filter (Session.acceptRows refusal))) :
    Keeps w.ofSession (Session.step next) := by
  cases next with
  | scan member request filter refusal =>
    exact .bind (w.ofMember_keeps (scans rfl request filter refusal) member) fun _ => .pure _
  | stage rows => exact .bind (.modify fun s => w.stored s.hub rfl) fun _ => .pure _
  | planFault point planned => exact .bind (.modify fun s => w.stored s.hub rfl) fun _ => .pure _
  | createService member name settings backend filters =>
    refine .bind .get fun s => .bind (.ofExcept _) fun given => ?_
    refine .bind (w.onHub_keeps (w.createService_keeps _ _ _ _)) fun id => ?_
    exact .bind (w.bindName_keeps _ _) fun _ => .pure _
  | validate member => exact .of_reads (validate_reads member)
  | isEnabled member => exact .of_reads (isEnabled_reads member)
  | enable member racing =>
    refine .bind (.of_reads (findService_reads member)) fun id => ?_
    refine .bind (w.onHub_keeps ?_) fun _ => .of_reads (isEnabled_reads member)
    cases racing with
    | false => exact w.enable_keeps id
    | true => exact w.enableRacing_keeps id
  | shutdown member =>
    exact .bind (w.ofMember_keeps w.shutdown member) fun _ =>
      .of_reads (isEnabled_reads member)
  | put member table requests =>
    exact .bind (w.ofMember_keeps (puts rfl table requests) member) fun _ => .pure _
  | putRow member table row columns timestamp =>
    exact .bind (w.ofMember_keeps (puts rfl table _) member) fun _ => .pure _
  | delete member table row =>
    exact .bind (w.ofMember_keeps (w.delete table row) member) fun _ => .pure _
  | tableName member table =>
    exact .bind (w.ofMember_keeps (w.tableName table) member) fun _ => .pure _
  | openCursor name member request filter =>
    exact .bind (w.openCursor_keeps name member request filter) fun _ => .pure _
  | nextRow name => exact .bind (w.nextRow_keeps name) fun _ => .pure _
  | closeCursor name =>
    refine .bind (.bind (.of_reads (findCursor_reads name)) fun found => ?_) fun _ => .pure _
    exact .bind (.modify fun _ => rfl) fun _ => w.closeCursor_keeps found.1 found.2
  | details member => exact .of_reads (.bind (details_reads member) fun _ => .pure _)
  | metrics => exact .bind (w.onHub_keeps w.collect_keeps) fun _ => .pure _
  | page member path =>
    refine .bind (.of_reads (sharedService_reads member)) fun service => ?_
    exact .bind (w.onHub_keeps (w.page_keeps service path)) fun _ => .pure _
  | createPublisher member order =>
    refine .bind (.of_reads (sharedService_reads order.service)) fun service => ?_
    refine .bind (w.onHub_keeps ?_) fun _ => .bind (w.bindName_keeps _ _) fun _ => .pure _
    split
    · exact w.createPublisher_keeps _ _ _ _
    · exact w.publisherOfConfig_keeps _ _ _
  | createRecorder member name address config =>
    exact .bind (.ofExcept _) fun _ => .bind (.ofExcept _) fun _ =>
      .bind (w.bindName_keeps _ _) fun _ => .pure _
  | publish member data =>
    have keeps : ∀ sink : Stream.Sink Hub, sink.IsKeeping w.ofHub →
        Keeps (Stream.Publisher.behind w.ofHub) (Stream.Publisher.publish sink data) :=
      fun _ h => Stream.Publisher.publish_keeps h data
    exact .bind (w.onPublisher_keeps (puts rfl) keeps member) fun _ => .pure _
  | flush member =>
    exact .bind (w.onPublisher_keeps (puts rfl) (fun _ h => Stream.Publisher.flush_keeps h) member)
      fun _ => .pure _
  | tick member =>
    exact .bind (w.onPublisher_keeps (puts rfl) (fun _ h => Stream.Publisher.tick_keeps h) member)
      fun _ => .pure _
  | createSubscriber member order =>
    refine .bind (.of_reads (sharedService_reads order.service)) fun service => ?_
    refine .bind (w.onHub_keeps ?_) fun _ => .bind (w.bindName_keeps _ _) fun _ => .pure _
    split
    · exact w.createSubscriber_keeps _ _ _ _
    · exact w.subscriberOfConfig_keeps _ _ _
  | createPrepared =>
    exact .bind (.ofExcept _) fun _ => .bind (w.bindName_keeps _ _) fun _ => .pure _
  | poll member =>
    exact w.onFeed_keeps (.bind w.poll_keeps fun _ => .bind .get fun _ => .pure _)
      member
  | fetch member =>
    exact w.onSubscriber_keeps (fun _ _ _ h => .bind (Stream.Subscriber.fetch_keeps h) fun _ =>
      .pure _) member
  | take member seconds =>
    refine .bind (.ofExcept _) fun patience => .bind ?_ fun _ => .pure _
    exact w.onSubscriber_keeps (fun _ _ _ _ _ => rfl) member
  | queueSize member => exact .bind (w.subscriber_keeps member) fun _ => .pure _
  | suspend member => exact .bind (w.updateSubscriber_keeps member _) fun _ => .pure _
  | resume member => exact .bind (w.updateSubscriber_keeps member _) fun _ => .pure _
  | start member => exact w.workerAfter_keeps member fun _ _ _ => Stream.Subscriber.start_keeps
  | goOn member => exact w.workerAfter_keeps member fun _ _ _ => Stream.Subscriber.goOn_keeps
  | stop member => exact .bind (w.stop_keeps (puts rfl) member) fun _ => .pure _

end Watch
end WideColumn
