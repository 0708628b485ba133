import Mathlib.Algebra.BigOperators.Finprod
import WideColumn.Proofs.Service.WriteCounts
import WideColumn.Proofs.Session.Watching
import WideColumn.Proofs.Stream.Noting
import WideColumn.Proofs.Stream.Sink

/-! The counts of the puts of a whole session, with all its services and publishers. The attempts of
a step are those of the put that it asks for, or what is noted of them when a publisher writes; the
metrics and the services count all that have been made, and no step changes these counts without
an attempt. -/
namespace WideColumn

open WideColumn.Action (Keeps)
open Attempt (endedAt)

variable {α σ : Type}

namespace Hub

variable {h h' h'' : Hub} {tried more : List Attempt} {id : ServiceId} {service : Service}

/-- The puts that all services together have counted. -/
def putCount (h : Hub) : Nat := (h.services.map (·.putCount)).sum

/-- What is counted of puts, and the puts that have been asked for. -/
def writes (h : Hub) :
    (((Series → Nat) × OrderedMap String (List Nat)) × Nat) × List Store.PutCall :=
  ((h.metrics.writes, h.putCount), h.store.puts)

/-- What a hub is after attempts: its metrics count them all, and its services those that have
returned; the tables that they have found are those that have been asked to put. -/
structure Counts (tried : List Attempt) (h h' : Hub) : Prop where
  metrics : h.metrics.Counts tried h'.metrics
  services : h'.putCount = h.putCount + Attempt.returns tried
  puts : h'.store.puts = h.store.puts ++ tried.filterMap Attempt.put?

theorem counts_of_writes (same : h'.writes = h.writes) : Counts [] h h' where
  metrics := .of_writes (congrArg (·.1.1) same)
  services := congrArg (·.1.2) same
  puts := (congrArg (·.2) same).trans (List.append_nil _).symm

theorem counts_isTrace : Action.IsTrace Counts where
  refl h := counts_of_writes rfl
  trans first second :=
    { metrics := first.metrics.trans second.metrics
      services := by rw [second.services, first.services, Attempt.returns_append, Nat.add_assoc]
      puts := by rw [second.puts, first.puts, List.filterMap_append, List.append_assoc] }

/-- A sequence whose first part makes all attempts. The state may have more than the hub. -/
theorem Counts.bind {β : Type} (hub : σ → Hub) {a : Action σ α} {f : α → Action σ β} {s : σ}
    (first : Counts tried (hub s) (hub (a s).2))
    (next : ∀ x, Keeps (fun t => (hub t).writes) (f x)) :
    Counts tried (hub s) (hub ((a >>= f) s).2) := by
  rcases ran : a s with ⟨e | x, t⟩
  · rw [ran] at first
    rw [Action.bind_of_error ran]
    exact first
  · rw [ran] at first
    rw [Action.bind_of_ok ran]
    have both := counts_isTrace.trans first (counts_of_writes (next x t))
    rw [List.append_nil] at both
    exact both

theorem sum_set {counts : List Nat} {i n : Nat} (at_i : counts[i]? = some n) (m : Nat) :
    (counts.set i m).sum + n = counts.sum + m := by
  induction counts generalizing i with
  | nil => cases at_i
  | cons k rest ih =>
    cases i with
    | zero =>
      obtain rfl : k = n := Option.some.inj at_i
      rw [List.set_cons_zero, List.sum_cons, List.sum_cons]
      omega
    | succ i =>
      have later := ih (i := i) at_i
      rw [List.set_cons_succ, List.sum_cons, List.sum_cons]
      omega

theorem putCount_withClient (known : h.services[id]? = some service) (c : Client) :
    (h.withClient id c).putCount + service.putCount = h.putCount + c.service.putCount := by
  rw [putCount, putCount, withClient, List.map_set]
  refine sum_set ?_ _
  rw [List.getElem?_map, known]
  rfl

/-- The attempts that a service makes, if there is one. -/
def triedBy (h : Hub) (id : Option ServiceId) (tried : Client → List Attempt) : List Attempt :=
  match id.bind h.service? with
  | some service => tried ⟨service, h.store, h.metrics⟩
  | none => []

theorem onService_counts {tried : Client → List Attempt} {a : Action Client α}
    (counts : ∀ c, Client.Counts (tried c) c (a c).2) (id : ServiceId) (h : Hub) :
    Counts (h.triedBy (some id) tried) h (onService id a h).2 := by
  unfold triedBy
  cases found : h.services[id]? with
  | none =>
    have unknown : (some id).bind h.service? = none := found
    rw [unknown, onService, found]
    exact counts_isTrace.refl h
  | some service =>
    have known : (some id).bind h.service? = some service := found
    rw [known, onService_of_known found]
    obtain ⟨metrics, counted, puts⟩ := counts ⟨service, h.store, h.metrics⟩
    refine ⟨metrics, ?_, puts⟩
    have sum := putCount_withClient found (a ⟨service, h.store, h.metrics⟩).2
    dsimp only at counted sum ⊢
    omega

end Hub

/-- What is counted and asked for of puts, which only putting changes. -/
def Watch.writes :
    Watch ((((Series → Nat) × OrderedMap String (List Nat)) × Nat) × List Store.PutCall) where
  ofClient := Client.writes
  ofHub := Hub.writes
  works {h id service c} known same := by
    obtain ⟨counts, puts⟩ := Prod.mk.inj same
    obtain ⟨metrics, counted⟩ := Prod.mk.inj counts
    have sum := Hub.putCount_withClient known c
    have services : (h.withClient id c).putCount = h.putCount := by
      dsimp only at counted
      omega
    exact Prod.ext (Prod.ext metrics services) puts
  stored h _ puts := congrArg ((h.metrics.writes, h.putCount), ·) puts
  added h _ _ _ _ service created := by
    have unused : service.putCount = 0 := by rw [Service.create_eq created]
    refine congrArg (fun n => ((h.metrics.writes, n), h.store.puts)) ?_
    rw [Hub.putCount, List.map_append, List.map_singleton, unused, List.sum_append]
    rfl
  streamed h s n ofStreams := by
    have other : s.isOfWrites = false := by
      cases s <;> first | rfl | cases ofStreams
    exact congrArg (fun m => ((m, h.putCount), h.store.puts)) (h.metrics.writes_add other n)
  enable := Client.enable_writes
  enableRacing := Client.enableRacing_writes
  shutdown := Client.shutdown_writes
  delete := Client.delete_writes
  tableName := Client.tableName_writes
  next := Client.next_writes
  closeCursor := Client.closeCursor_writes
  poll request filter := Client.scan_writes request filter _

/-! Publishers. -/

namespace Stream

/-- The attempts that putting requests makes. -/
def TableSink.putAttempts (t : TableSink) (requests : List PutRequest) (h : Hub) : List Attempt :=
  h.triedBy t.supplier.service? (Client.putAttempts t.table requests)

/-- The attempts that writing a batch makes. -/
def TableSink.attempts (t : TableSink) (batch : List Value) (h : Hub) : List Attempt :=
  t.putAttempts (t.batchRequests batch) h

/-- What the attempts of a publisher come to: they are noted after those before, and counted. -/
def Tells (s s' : List Attempt × Hub) : Prop :=
  ∃ tried, s'.1 = s.1 ++ tried ∧ Hub.Counts tried s.2 s'.2

namespace TableSink

variable (t : TableSink)

theorem put_counts (requests : List PutRequest) (h : Hub) :
    Hub.Counts (t.putAttempts requests h) h (t.put requests h).2 := by
  refine Hub.Counts.bind id (s := h) ?_ fun _ => ?_
  · unfold putAttempts
    cases supplier : t.supplier with
    | shared service => exact Hub.onService_counts (Client.put_counts t.table requests) service h
    | owned service => exact Hub.onService_counts (Client.put_counts t.table requests) service h
    | unfit typeName => exact Hub.counts_isTrace.refl h
  · exact .bind (Watch.writes.count_keeps _ rfl) fun _ => .pure _

/-- Putting nothing is no attempt. -/
theorem nothing_counts (h : Hub) : Hub.Counts (t.putAttempts [] h) h h := by
  have none : t.putAttempts [] h = [] := by
    unfold putAttempts Hub.triedBy
    cases t.supplier.service?.bind h.service? with
    | none => rfl
    | some service =>
      dsimp only [Client.putAttempts]
      cases service.connection with
      | none => rfl
      | some connection => rfl
  rw [none]
  exact Hub.counts_isTrace.refl h

theorem writeBatch_counts (batch : List Value) (h : Hub) :
    Hub.Counts (t.attempts batch h) h (t.writeBatch batch h).2 := by
  unfold attempts batchRequests
  cases converted : batch.mapM t.request with
  | error e =>
    rw [writeBatch, converted]
    exact t.nothing_counts h
  | ok requests =>
    rw [writeBatch_eq converted]
    dsimp only
    cases requests.filterMap id with
    | nil => exact t.nothing_counts h
    | cons first more => exact t.put_counts (first :: more) h

theorem noting_isObeying : (t.sink.noting t.attempts).IsObeying Tells := by
  refine Sink.noting_isObeying Hub.counts_isTrace (fun data h => ?_) ?_
  · change Hub.Counts _ h (t.write data h).2
    rw [write_eq_writeBatch]
    exact t.writeBatch_counts [data] h
  · rintro _ ⟨⟩
    exact t.writeBatch_counts

end TableSink
end Stream

/-! Sessions. -/

namespace Session

/-- The attempts of a put that is asked of a service. -/
def putting (s : Session) (member table : String) (requests : List PutRequest) : List Attempt :=
  match s.members.get? member with
  | some (.service id) => s.hub.triedBy (some id) (Client.putAttempts table requests)
  | _ => []

/-- The attempts that are noted while something is done with a publisher to a table. -/
def publishing (s : Session) (member : String) (a : Stream.Sink (List Attempt × Hub) →
    Action (Stream.Publisher × List Attempt × Hub) α) : List Attempt :=
  match s.members.get? member with
  | some (.publisher p) => (a (p.table.sink.noting p.table.attempts) (p.publisher, [], s.hub)).2.2.1
  | _ => []

/-- The attempts of a step. -/
def attempts (s : Session) : Step → List Attempt
  | .put member table requests => s.putting member table requests
  | .putRow member table row columns timestamp =>
    s.putting member table [⟨some table, row, columns, timestamp⟩]
  | .publish member data => s.publishing member (Stream.Publisher.publish · data)
  | .flush member => s.publishing member Stream.Publisher.flush
  | .tick member => s.publishing member Stream.Publisher.tick
  | .stop member => s.publishing member Stream.Publisher.stop
  | _ => []

/-- A publisher counts the attempts that are noted of it. -/
theorem onPublisher_counts {a : ∀ {σ : Type}, Stream.Sink σ → Action (Stream.Publisher × σ) α}
    (through : Stream.Publisher.IsThrough a) (member : String) (s : Session) :
    Hub.Counts (s.publishing member a) s.hub (onPublisher member a s).2.hub := by
  unfold publishing
  rw [onPublisher, find_bind]
  cases s.members.get? member with
  | none => exact Hub.counts_isTrace.refl s.hub
  | some m =>
    cases m with
    | publisher p =>
      obtain ⟨tried, noted, counts⟩ :=
        through.obeys p.table.noting_isObeying (p.publisher, [], s.hub)
      -- The notes tell what has been tried, and taking them changes nothing for the hub.
      have same := through.mirrors p.table.attempts p.table.sink (p.publisher, [], s.hub)
      have hub : (a p.table.sink (p.publisher, s.hub)).2.2 =
          (a (p.table.sink.noting p.table.attempts) (p.publisher, [], s.hub)).2.2.2 :=
        congrArg (·.2.2) same
      change Hub.Counts _ s.hub (a p.table.sink (p.publisher, s.hub)).2.2
      rw [hub]
      dsimp only
      rw [noted]
      exact counts
    | recorder p refused =>
      have keeps := through.obeys (Watch.writes.recorder_isKeeping refused).isObeying
      exact Hub.counts_of_writes (keeps (p, s.hub))
    | service | subscriber | prepared => exact Hub.counts_isTrace.refl s.hub

/-- A service counts the attempts of the put that is asked of it. -/
theorem onService_counts (member table : String) (requests : List PutRequest) (s : Session) :
    Hub.Counts (s.putting member table requests) s.hub
      (onService member (Client.put table requests) s).2.hub := by
  have found := findService_eq member s
  unfold putting onService
  cases known : s.members.get? member with
  | none =>
    rw [known] at found
    rw [Action.bind_of_error found]
    exact Hub.counts_isTrace.refl s.hub
  | some m =>
    rw [known] at found
    cases m with
    | service id =>
      rw [Action.bind_of_ok found]
      exact Hub.onService_counts (Client.put_counts table requests) id s.hub
    | publisher | recorder | subscriber | prepared =>
      rw [Action.bind_of_error found]
      exact Hub.counts_isTrace.refl s.hub

/-- A publisher that is stopped makes its last attempts before its service is shut down. -/
theorem stop_counts (member : String) (s : Session) :
    Hub.Counts (s.publishing member Stream.Publisher.stop) s.hub (stop member s).2.hub := by
  have stopped := onPublisher_counts Stream.Publisher.stop_isThrough member s
  have quiet : Keeps Watch.writes.ofSession (updateSubscriber member Stream.Subscriber.stop) :=
    Watch.writes.updateSubscriber_keeps member _
  have released (supplier : Stream.Supplier) :
      Keeps Watch.writes.ofSession (onHub supplier.release) :=
    Watch.writes.onHub_keeps (Watch.writes.release_keeps supplier)
  unfold publishing at stopped ⊢
  rw [stop, find_bind]
  cases known : s.members.get? member with
  | none => exact Hub.counts_isTrace.refl s.hub
  | some m =>
    rw [known] at stopped
    cases m with
    | publisher p => exact stopped.bind hub fun _ => released p.table.supplier
    | recorder p refused => exact stopped
    | subscriber t =>
      have both := quiet.bind fun _ => released t.feed.supplier
      exact Hub.counts_of_writes (both s)
    | prepared p items => exact Hub.counts_of_writes (quiet s)
    | service id => exact Hub.counts_isTrace.refl s.hub

/-- A step counts its attempts. -/
theorem step_counts (next : Step) (s : Session) :
    Hub.Counts (s.attempts next) s.hub (step next s).2.hub := by
  cases isWrite : next.isWrite with
  | false =>
    have none : s.attempts next = [] := by
      cases next <;> first | rfl | cases isWrite
    have keeps : Keeps Watch.writes.ofSession (step next) :=
      Watch.writes.step_keeps (fun writes => by cases isWrite.symm.trans writes)
        fun _ request filter refusal => Client.scan_writes request filter _
    rw [none]
    exact Hub.counts_of_writes (keeps s)
  | true =>
    cases next with
    | put member table requests =>
      exact (onService_counts member table requests s).bind hub fun _ => .pure _
    | putRow member table row columns timestamp =>
      exact (onService_counts member table _ s).bind hub fun _ => .pure _
    | publish member data =>
      have through := Stream.Publisher.publish_isThrough data
      exact (onPublisher_counts through member s).bind hub fun _ => .pure _
    | flush member =>
      have through := Stream.Publisher.flush_isThrough
      exact (onPublisher_counts through member s).bind hub fun _ => .pure _
    | tick member =>
      have through := Stream.Publisher.tick_isThrough
      exact (onPublisher_counts through member s).bind hub fun _ => .pure _
    | stop member => exact (stop_counts member s).bind hub fun _ => .pure _
    | _ => cases isWrite

/-- The sessions that begin without services, with all attempts that have been made in them. -/
inductive Attempted : Session → List Attempt → Prop
  | start (files : Files) (environment : Environment) :
      Attempted { hub := { files, environment } } []
  | step {s : Session} {tried : List Attempt} (before : Attempted s tried) (next : Step) :
      Attempted (step next s).2 (tried ++ s.attempts next)

theorem Attempted.counts {s : Session} {tried : List Attempt} (attempted : Attempted s tried) :
    Hub.Counts tried {} s.hub := by
  induction attempted with
  | start files environment => exact Hub.counts_of_writes rfl
  | step before next ih => exact Hub.counts_isTrace.trans ih (step_counts next _)

/-- In every session, whatever has been done in it and whatever has failed: the puts that tables have
been asked for are those of the attempts that have found their tables, in order. Of each table, the
puts that are counted are the attempts that have returned and those that have failed, and each of them
has been timed; it has been asked for the puts that have returned and for those that failed after it
had been found. The rows and cells that are counted as written, and the sizes of the batches, are
those of the attempts that have returned. All services together have counted as many puts as there
are successes. -/
theorem puts_attempted {s : Session} {tried : List Attempt} (attempted : Attempted s tried) :
    let m := s.hub.metrics
    let puts := s.hub.store.calls.filterMap fun made => made.call.put?
    puts = tried.filterMap Attempt.put? ∧
    (∀ table,
      let returned := endedAt table true tried
      let failed := endedAt table false tried
      (puts.filter fun put => put.2.1 = table).length =
        m.count (.puts table true) + (failed.filter fun a => a.ending = .failed).length ∧
      m.count (.puts table true) = returned.length ∧ m.count (.puts table false) = failed.length ∧
      m.count (.putDuration table) = m.count (.puts table true) + m.count (.puts table false) ∧
      m.count (.rowsWritten table) = (returned.map Attempt.rows).sum ∧
      m.count (.cellsWritten table) = (returned.map Attempt.cells).sum ∧
      m.batches table = returned.map Attempt.rows ∧
      (m.batches table).length = m.count (.puts table true) ∧
      (m.batches table).sum = m.count (.rowsWritten table)) ∧
    (s.hub.services.map (·.putCount)).sum = ∑ᶠ table, m.count (.puts table true) := by
  intro m puts
  have counts (series : Series) (ofWrites : series.isOfWrites) :
      m.count series = Attempt.counted tried series :=
    (attempted.counts.metrics.counts series ofWrites).trans (Nat.zero_add _)
  have batches (table : String) : m.batches table = (endedAt table true tried).map Attempt.rows :=
    attempted.counts.metrics.batches table
  have asked : puts = tried.filterMap Attempt.put? := attempted.counts.puts
  refine ⟨asked, ?_, ?_⟩
  · intro table returned failed
    rw [counts (.puts table true) rfl, counts (.puts table false) rfl,
      counts (.putDuration table) rfl, counts (.rowsWritten table) rfl,
      counts (.cellsWritten table) rfl, batches,
      asked]
    exact ⟨Attempt.length_puts tried table, rfl, rfl, rfl, rfl, rfl, rfl, List.length_map _, rfl⟩
  · have services : (s.hub.services.map (·.putCount)).sum = Attempt.returns tried :=
      attempted.counts.services.trans (Nat.zero_add _)
    rw [services, Attempt.returns_eq_finsum]
    exact finsum_congr fun table => (counts (.puts table true) rfl).symm

/-- A put of two tables, of which the second one fails, and a record that is published. -/
theorem puts_attempted_second_table :
    let settings : Settings := .ofList [("confFiles", .text "hbase-site.xml")]
    let gone : Planned := ⟨1, .collaborator "IOError" "gone"⟩
    let order : StreamOrder :=
      { name := .text "p", service := some "s", config := ∅, address := some (.text "hbase://t") }
    let record := Value.dict [(.text "__dagserver_key", .text "c"), (.text "m:b", .text "1")]
    let bytes := fun text : String => some (Utf8.ofString text)
    let created := (step (.createService "s" "svc" (.given settings) .direct ∅) {}).2
    let failing := (step (.planFault .put (some gone)) (step (.enable "s" false) created).2).2
    let put := (step (.put "s" "t" [⟨none, bytes "a", [], none⟩, ⟨some "u", bytes "b", [], none⟩])
      failing).2
    let publishing := (step (.createPublisher "p" order) (step (.planFault .put none) put).2).2
    let published := (step (.publish "p" record) publishing).2
    let tried : List Attempt :=
      [⟨1, "t", [⟨bytes "a", []⟩], .returned⟩, ⟨1, "u", [⟨bytes "b", []⟩], .failed⟩,
        ⟨1, "t", [⟨bytes "c", [⟨bytes "m", bytes "b", bytes "1", none⟩]⟩], .returned⟩]
    Attempted published tried ∧
      (published.hub.store.calls.filterMap fun made => made.call.put?).map (·.2.1) =
        ["t", "u", "t"] ∧
      published.hub.metrics.count (.puts "t" true) = 2 ∧
      published.hub.metrics.count (.puts "u" false) = 1 ∧
      published.hub.metrics.batches "t" = [1, 1] ∧
      published.hub.metrics.count (.cellsWritten "t") = 1 ∧
      ∑ᶠ table, published.hub.metrics.count (.puts table true) = 2 := by
  intro settings gone order record bytes created failing put publishing published tried
  have started : Attempted {} [] := .start {} fun _ => none
  have ready : Attempted failing [] := ((started.step _).step _).step _
  have ran : Attempted published _ := (((ready.step _).step _).step _).step _
  have attempted : Attempted published tried := by
    refine (congrArg (Attempted published) ?_).mp ran
    decide +kernel
  obtain ⟨puts, tables, services⟩ := puts_attempted attempted
  obtain ⟨-, successes, -, -, -, cells, batches, -, -⟩ := tables "t"
  obtain ⟨-, -, failures, -⟩ := tables "u"
  refine ⟨attempted, (congrArg _ puts).trans rfl, successes.trans ?_, failures.trans ?_,
    batches.trans ?_, cells.trans ?_, ?_⟩
  · decide +kernel
  · decide +kernel
  · decide +kernel
  · decide +kernel
  · rw [← services]
    decide +kernel

end Session
end WideColumn
