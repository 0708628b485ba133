import WideColumn.Proofs.Service.ScanCounts
import WideColumn.Proofs.Session.Watching

/-! The counts of the scans of a whole session, with all its services, publishers and subscribers.
Only scans change them, and the scans that have been timed are those that have been counted and the
hidden ones. -/
namespace WideColumn

open WideColumn.Action (Keeps)

variable {α : Type}

/-- The uncounted scans of all tables. -/
def Hub.uncounted (h : Hub) : String → Int := h.metrics.uncounted

/-- The uncounted scans, which only scanning changes. -/
def Watch.scans : Watch (String → Int) where
  ofClient := Client.uncounted
  ofHub := Hub.uncounted
  works _ same := same
  stored _ _ _ := rfl
  added _ _ _ _ _ _ _ := rfl
  streamed h s n ofStreams := by
    refine h.metrics.uncounted_add ?_ n
    cases s <;> first | rfl | cases ofStreams
  enable := Client.enable_keeps
  enableRacing := Client.enableRacing_keeps
  shutdown := Client.shutdown_keeps
  delete := Client.delete_keeps
  tableName := Client.tableName_keeps
  next := Client.next_keeps
  closeCursor := Client.closeCursor_keeps
  poll request filter := Client.scan_keeps request filter fun _ _ => ⟨[], rfl⟩

namespace Session

/-- The uncounted scans of all tables. -/
def uncounted (s : Session) : String → Int := s.hub.uncounted

/-- Every step but a scan leaves the scans alone. -/
theorem step_keeps {next : Step} (other : next.isScan = false) : Keeps uncounted (step next) :=
  Watch.scans.step_keeps (fun _ => Client.put_keeps) fun isScan => by cases other.symm.trans isScan

/-- A step whose scan is hidden: closing has failed after the handler. -/
def Hides (s s' : Session) : Prop := ∃ row e e', s'.hub.store.incidents =
  s.hub.store.incidents ++ [⟨.handler row, e⟩, ⟨.point .scannerClose, e'⟩]

/-- What a service does in a session: nothing, if it is not known, or what its client does. -/
theorem onService_outcome (name : String) (a : Action Client α) (s : Session) :
    (onService name a s).2 = s ∨ ∃ id service, (onService name a s).2.hub =
      s.hub.withClient id (a ⟨service, s.hub.store, s.hub.metrics⟩).2 := by
  have reads := findService_reads name s
  rcases found : findService name s with ⟨e | id, s'⟩
  · rw [found] at reads
    obtain rfl : s' = s := reads
    have stopped : onService name a s' = (.error e, s') := Action.bind_of_error found
    rw [stopped]
    exact .inl rfl
  · rw [found] at reads
    obtain rfl : s' = s := reads
    have goesOn : onService name a s' = onHub (Hub.onService id a) s' := Action.bind_of_ok found
    rw [goesOn]
    cases known : s'.hub.services[id]? with
    | none =>
      have unknown : Hub.onService id a s'.hub = (.error (.notEnabled ""), s'.hub) := by
        rw [Hub.onService, known]
      rw [onHub_eq unknown]
      exact .inl rfl
    | some service =>
      refine .inr ⟨id, service, ?_⟩
      exact congrArg Prod.snd (Hub.onService_of_known known a)

theorem scan_step (member : String) (request : ScanRequest) (filter : Option String)
    (refusal : Option (Nat × Fault)) (s : Session) :
    let s' := (step (.scan member request filter refusal) s).2
    (Hides s s' ∧ ∀ t, s'.uncounted t = s.uncounted t + if t = request.table then 1 else 0) ∨
      ¬ Hides s s' ∧ s'.uncounted = s.uncounted := by
  intro s'
  have replied : s' = (onService member (Client.scan request filter (acceptRows refusal)) s).2 :=
    Action.state_bind (fun _ => .pure _) s
  rcases onService_outcome member (Client.scan request filter (acceptRows refusal)) s with
    same | ⟨id, service, works⟩
  · rw [replied, same]
    refine .inr ⟨?_, rfl⟩
    rintro ⟨row, e, e', noted⟩
    cases List.self_eq_append_right.mp noted
  · rw [← replied] at works
    have scanned := Client.scan_uncounted request filter (acceptRows refusal)
      ⟨service, s.hub.store, s.hub.metrics⟩
    unfold Hides uncounted Hub.uncounted
    rw [works]
    exact scanned.imp (fun hidden => ⟨hidden.1, hidden.2.2⟩) fun shown => shown

/-- The sessions that begin without services, with the tables of the scans that have been hidden. -/
inductive Tallied : Session → List String → Prop
  | start (files : Files) (environment : Environment) : Tallied { hub := { files, environment } } []
  | hidden {s : Session} {hidden : List String} {member : String} {request : ScanRequest}
      {filter : Option String} {refusal : Option (Nat × Fault)} (before : Tallied s hidden)
      (hides : Hides s (step (.scan member request filter refusal) s).2) :
      Tallied (step (.scan member request filter refusal) s).2 (request.table :: hidden)
  | seen {s : Session} {hidden : List String} {next : Step} (before : Tallied s hidden)
      (shows : next.isScan → ¬ Hides s (step next s).2) : Tallied (step next s).2 hidden

theorem Tallied.uncounted {s : Session} {hidden : List String} (tallied : Tallied s hidden)
    (table : String) : s.uncounted table = hidden.count table := by
  induction tallied with
  | start files environment => rfl
  | @hidden s hidden member request filter refusal before hides ih =>
    rcases scan_step member request filter refusal s with ⟨-, more⟩ | ⟨shows, -⟩
    · rw [more, ih, List.count_cons]
      by_cases same : table = request.table
      · simp [same]
      · simp [same, Ne.symm same]
    · exact absurd hides shows
  | @seen s hidden next before shows ih =>
    cases isScan : next.isScan with
    | false => rw [step_keeps isScan s, ih]
    | true =>
      cases next with
      | scan member request filter refusal =>
        rcases scan_step member request filter refusal s with ⟨hides, -⟩ | ⟨-, same⟩
        · exact absurd hides (shows isScan)
        · rw [same, ih]
      | _ => cases isScan

/-- A scan that has a connection and whose filter can be read is timed once. Unless it is hidden, it
is counted once too, and as a success if it gives its rows; a hidden one fails and is not counted.
So in every session, whatever has been done in it, the scans of a table that have been timed are
those that have been counted and those that were hidden. -/
theorem scans_tallied (c : Client) (request : ScanRequest) (expression : Option String)
    (handler : Client.RowHandler) {s : Session} {hidden : List String}
    (tallied : Tallied s hidden) :
    (∀ connection filter, c.service.connection = some connection →
      Filter.parse c.service.filters (expression.getD "").toList = .ok filter →
      let ran := Client.scan request expression handler c
      (∀ t, ran.2.metrics.count (.scanDuration t) =
        c.metrics.count (.scanDuration t) + if t = request.table then 1 else 0) ∧
      (¬ Client.Hidden c ran.2 → ∀ t success, ran.2.metrics.count (.scans t success) =
        c.metrics.count (.scans t success) +
          if t = request.table ∧ success = ran.1.toBool then 1 else 0) ∧
      (Client.Hidden c ran.2 → ran.1.toBool = false ∧ ∀ t success,
        ran.2.metrics.count (.scans t success) = c.metrics.count (.scans t success))) ∧
    ∀ table, s.hub.metrics.count (.scanDuration table) =
      s.hub.metrics.count (.scans table true) + s.hub.metrics.count (.scans table false) +
        hidden.count table := by
  constructor
  · intro connection filter current parsed ran
    have opened := @Client.openCursor_of_parse c _ request _ _ current parsed
    obtain ⟨met, status, scanned, ended⟩ := Client.scan_ended opened handler
    have hidden : Client.Hidden c ran.2 ↔ status = none := scanned.hidden_iff ended
    refine ⟨scanned.timed, fun shown t success => ?_, fun isHidden => ?_⟩
    · obtain rfl : status = some ran.1.toBool :=
        ended.status_eq.resolve_left fun uncounted => shown (hidden.mpr uncounted.1)
      simpa only [Option.some.injEq] using scanned.scans t success
    · obtain rfl := hidden.mp isHidden
      rcases ended.status_eq with ⟨-, failed⟩ | counted
      · exact ⟨failed, fun t success => by simpa using scanned.scans t success⟩
      · cases counted
  · intro table
    have uncounted := tallied.uncounted table
    unfold Session.uncounted Hub.uncounted Metrics.uncounted at uncounted
    omega

/-- A handler refuses the only row, and the scanner cannot be closed after that: the scan is hidden.
A scan whose handler takes the row is counted as a success. -/
theorem scans_tallied_refusal :
    let settings : Settings := .ofList [("confFiles", .text "hbase-site.xml")]
    let gone : Planned := ⟨0, .collaborator "OSError" "gone"⟩
    let full : Fault := .collaborator "RuntimeError" "full"
    let created := (step (.createService "s" "svc" (.given settings) .direct ∅) {}).2
    let staged := (step (.stage [⟨some [0x72], []⟩]) (step (.enable "s" false) created).2).2
    let failing := (step (.planFault .scannerClose (some gone)) staged).2
    let refused := (step (.scan "s" { table := "t" } none (some (0, full))) failing).2
    let service : Service :=
      { name := "s", settings := ∅, backend := .direct, connection := some ⟨1, .direct⟩ }
    let c : Client := ⟨service, { rows := [⟨some [0x72], []⟩] }, {}⟩
    let taken := (Client.scan { table := "t" } none (fun _ _ => .ok []) c).2
    Tallied refused ["t"] ∧ refused.hub.metrics.count (.scanDuration "t") = 1 ∧
      refused.hub.metrics.count (.scans "t" true) = 0 ∧
      refused.hub.metrics.count (.scans "t" false) = 0 ∧
      taken.metrics.count (.scans "t" true) = 1 := by
  intro settings gone full created staged failing refused service c taken
  have started : Tallied {} [] := .start {} fun _ => none
  have ready : Tallied failing [] :=
    .seen (.seen (.seen (.seen started nofun) nofun) nofun) nofun
  have hides : Hides failing refused := ⟨some [0x72], full, gone.fault, rfl⟩
  have tallied : Tallied refused ["t"] := .hidden ready hides
  have timed : refused.hub.metrics.count (.scanDuration "t") = 1 := by decide +kernel
  obtain ⟨scanned, tally⟩ :=
    scans_tallied c { table := "t" } none (fun _ _ => .ok []) tallied
  have balance := tally "t"
  have listed : ["t"].count "t" = 1 := rfl
  have shown : ¬ Client.Hidden c taken := by
    rintro ⟨row, e, e', noted⟩
    cases noted
  have gives : (Client.scan { table := "t" } none (fun _ _ => .ok []) c).1.toBool = true := by
    decide +kernel
  have counted := (scanned ⟨1, .direct⟩ none rfl rfl).2.1 shown "t" true
  rw [gives] at counted
  refine ⟨tallied, timed, ?_, ?_, counted⟩
  · omega
  · omega

end Session
end WideColumn
