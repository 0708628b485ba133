import WideColumn.Proofs.Action
import WideColumn.Proofs.Metrics
import WideColumn.Proofs.Service.Connection

/-! The faults that occur while a client works. Whatever it asks of a connection or a scanner meets
at most one of them, at a point of what it asks for, and fails with that fault as it is. -/
namespace WideColumn

open Store (Call Event Incident Point)

/-- A store for which no faults of the service's own kinds are planned. -/
def Store.IsForeign (s : Store) : Prop :=
  ∀ point planned, s.plan point = some planned → planned.fault.isService = false

/-- The points at which something is closed. -/
def Store.Point.closes : Point → Bool
  | scannerClose | close => true
  | connect | table | put | delete | scanner | read | batch | batchPut | batchSend | metrics =>
    false

namespace Client

/-- What a client is after it has met faults while it worked, apart from scans. -/
structure Met (met : List Incident) (c c' : Client) : Prop where
  noted : c'.store.incidents = c.store.incidents ++ met
  foreign : c.store.IsForeign → c'.store.IsForeign
  raised : c.store.IsForeign → ∀ point e, ⟨.point point, e⟩ ∈ met → e.isService = false
  rows : c'.store.rows = c.store.rows
  scans : ∀ s : Series, s.isOfScans → c'.metrics.count s = c.metrics.count s

variable {met more : List Incident} {c c' c'' : Client}

theorem Met.refl (c : Client) : Met [] c c :=
  ⟨(List.append_nil _).symm, id, nofun, rfl, fun _ _ => rfl⟩

theorem Met.trans (first : Met met c c') (second : Met more c' c'') : Met (met ++ more) c c'' where
  noted := by rw [second.noted, first.noted, List.append_assoc]
  foreign h := second.foreign (first.foreign h)
  raised h point e member := by
    rcases List.mem_append.mp member with before | later
    · exact first.raised h point e before
    · exact second.raised (first.foreign h) point e later
  rows := second.rows.trans first.rows
  scans s isOfScans := (second.scans s isOfScans).trans (first.scans s isOfScans)

/-- A fault that is planned for a point occurs. -/
theorem Met.occurred {point : Point} {planned : Planned} (h : c.store.plan point = some planned) :
    Met [⟨.point point, planned.fault⟩] c
      { c with store := c.store.meet ⟨.point point, planned.fault⟩ } where
  noted := rfl
  foreign := id
  raised foreign p e member := by
    rw [(Incident.mk.inj (List.mem_singleton.mp member)).2]
    exact foreign point planned h
  rows := rfl
  scans _ _ := rfl

/-- The handling of a row fails, and nothing else. -/
theorem Met.handling (row : Option Bytes) (e : Fault) (c : Client) :
    Met [⟨.handler row, e⟩] c { c with store := c.store.meet ⟨.handler row, e⟩ } where
  noted := rfl
  foreign := id
  raised _ point e member := by cases Incident.mk.inj (List.mem_singleton.mp member) |>.1
  rows := rfl
  scans _ _ := rfl

theorem Met.count {s : Series} (n : Nat) (other : s.isOfScans = false) (c : Client) :
    Met [] c { c with metrics := c.metrics.add s n } where
  noted := (List.append_nil _).symm
  foreign := id
  raised := nofun
  rows := rfl
  scans _ isOfScans := c.metrics.count_add_of_other other n isOfScans

theorem met_isTrace : Action.IsTrace Met := ⟨.refl, .trans⟩

/-- Whether a point has been passed, or its fault has occurred. -/
def Passed (point : Point) (ran : Except Fault Unit × Client) (met : List Incident) : Prop :=
  met = [] ∧ ran.1 = .ok () ∨ ∃ e, met = [⟨.point point, e⟩] ∧ ran.1 = .error e

/-- A point is passed, which takes its fault nearer, or the fault occurs. -/
theorem pass_passed (point : Point) (c : Client) :
    Action.Leaves Met c (pass point) (Passed point) := by
  cases planned : c.store.plan point with
  | none =>
    have passed : pass point c = (.ok (), c) := by
      rw [pass, Store.pass, planned]
    unfold Action.Leaves
    rw [passed]
    exact ⟨[], .refl c, .inl ⟨rfl, rfl⟩⟩
  | some plan =>
    obtain ⟨after, fault⟩ := plan
    cases after with
    | zero =>
      let incident : Incident := ⟨.point point, fault⟩
      have occurred : pass point c =
          (.error fault, { c with store := c.store.meet incident }) := by
        rw [pass, Store.pass, planned]
      unfold Action.Leaves
      rw [occurred]
      exact ⟨[incident], .occurred planned, .inr ⟨fault, rfl, rfl⟩⟩
    | succ after =>
      let nearer : Store := c.store.planFault point (some ⟨after, fault⟩)
      have passed : pass point c = (.ok (), { c with store := nearer }) := by
        rw [pass, Store.pass, planned]
      unfold Action.Leaves
      rw [passed]
      refine ⟨[], ⟨(List.append_nil _).symm, fun foreign p plan isPlan => ?_, nofun, rfl,
        fun _ _ => rfl⟩, .inl ⟨rfl, rfl⟩⟩
      change (if p = point then some ⟨after, fault⟩ else c.store.plan p) = some plan at isPlan
      split at isPlan
      · have isForeign := foreign point _ planned
        cases isPlan
        exact isForeign
      · exact foreign p plan isPlan

/-- What is noted before a point does not keep it from being passed. -/
theorem Passed.after {point : Point} {f : Client → Client} {a : Action Client Unit}
    (kept : Met [] c (f c)) (later : Action.Leaves Met (f c) a (Passed point)) :
    Action.Leaves Met c (.modify f >>= fun _ => a) (Passed point) := by
  obtain ⟨met, left, passed⟩ := later
  exact ⟨met, kept.trans left, passed⟩

/-- Whether an action has come out as what it asks for does: without a fault, or with one that has
occurred at one of some points. -/
def Bare {α : Type} (points : Point → Prop) (ran : Except Fault α × Client)
    (met : List Incident) : Prop :=
  met = [] ∨ ∃ point e, points point ∧ met = [⟨.point point, e⟩] ∧ ran.1 = .error e

/-- An action that meets no fault, or one at one of some points and then fails with it. -/
def FailsAt {α : Type} (points : Point → Prop) (a : Action Client α) : Prop :=
  ∀ c, Action.Leaves Met c a (Bare points)

/-- An action that meets no fault. -/
abbrev Untroubled {α : Type} (a : Action Client α) : Prop := FailsAt (fun _ => False) a

/-- An action that only fails, with a given fault, and meets none. -/
def FailsWith {α : Type} (e : Fault) (a : Action Client α) : Prop :=
  ∀ c, Action.Leaves Met c a fun ran met => met = [] ∧ ran.1 = .error e

variable {α β : Type} {points : Point → Prop} {a : Action Client α}

namespace FailsAt

theorem of_reads (reads : a.Reads) : FailsAt points a :=
  fun _ => .of_reads met_isTrace reads fun _ _ => .inl rfl

theorem pure (x : α) : FailsAt points (Pure.pure x) := of_reads (.pure x)

theorem fail (e : Fault) : FailsAt points (Action.fail e : Action Client α) := of_reads (.fail e)

theorem get : FailsAt points Action.get := of_reads .get

theorem ofExcept (outcome : Except Fault α) : FailsAt points (Action.ofExcept outcome) :=
  of_reads (.ofExcept outcome)

theorem modify {f : Client → Client} (kept : ∀ c, Met [] c (f c)) : FailsAt points (.modify f) :=
  fun c => ⟨[], kept c, .inl rfl⟩

theorem log (e : Event) : FailsAt points (Client.log e) :=
  modify fun _ => ⟨(List.append_nil _).symm, id, nofun, rfl, fun _ _ => rfl⟩

theorem note (call : Call) : FailsAt points (Client.note call) :=
  modify fun _ => ⟨(List.append_nil _).symm, id, nofun, rfl, fun _ _ => rfl⟩

theorem update (f : Service → Service) : FailsAt points (Client.update f) :=
  modify fun _ => ⟨(List.append_nil _).symm, id, nofun, rfl, fun _ _ => rfl⟩

theorem observeBatch (table : String) (rows : Nat) : FailsAt points
    (.modify fun c => { c with metrics := c.metrics.observeBatch table rows }) :=
  modify fun _ => ⟨(List.append_nil _).symm, id, nofun, rfl, fun _ _ => rfl⟩

theorem nextConnection : FailsAt points Client.nextConnection := fun _ =>
  ⟨[], ⟨(List.append_nil _).symm, id, nofun, rfl, fun _ _ => rfl⟩, .inl rfl⟩

theorem count {s : Series} (n : Nat) (other : s.isOfScans = false) :
    FailsAt points (Client.count s n) :=
  modify (.count n other)

theorem pass {point : Point} (isPoint : points point) : FailsAt points (Client.pass point) := by
  intro c
  refine (pass_passed point c).mono ?_
  rintro met - (⟨rfl, -⟩ | ⟨e, rfl, failed⟩)
  · exact .inl rfl
  · exact .inr ⟨point, e, isPoint, rfl, failed⟩

theorem bind {f : α → Action Client β} (first : FailsAt points a)
    (next : ∀ x, FailsAt points (f x)) : FailsAt points (a >>= f) := by
  intro c
  refine .bind met_isTrace (first c) ?_ ?_
  · rintro x met c' - (rfl | ⟨_, _, _, _, failed⟩)
    · exact next x c'
    · cases failed
  · rintro e met c' - (rfl | ⟨point, e', isPoint, rfl, same⟩)
    · exact .inl rfl
    · cases same
      exact .inr ⟨point, e, isPoint, rfl, rfl⟩

/-- A fault is noticed, and then comes out all the same. -/
theorem rescue {f : Except Fault α → Action Client β} (first : FailsAt points a)
    (next : ∀ x, FailsAt points (f (.ok x))) (again : ∀ e, FailsWith e (f (.error e))) :
    FailsAt points (Action.attempt a >>= f) := by
  intro c
  refine .bind_attempt met_isTrace (first c) ?_
  rintro (e | x) met c' - bare
  · refine (again e c').mono ?_
    rintro _ - ⟨rfl, failed⟩
    rcases bare with rfl | ⟨point, e', isPoint, rfl, same⟩
    · exact .inl rfl
    · cases same
      exact .inr ⟨point, e, isPoint, rfl, failed⟩
  · rcases bare with rfl | ⟨_, _, _, _, failed⟩
    · exact next x c'
    · cases failed

/-- An action that meets no fault leaves the noted ones as they are. -/
theorem meets_none (h : Untroubled a) (c : Client) :
    Action.Leaves Met c a fun _ met => met = [] := by
  refine (h c).mono ?_
  rintro met - (rfl | ⟨_, _, impossible, _⟩)
  · rfl
  · exact impossible.elim

end FailsAt

namespace FailsWith

theorem fail (e : Fault) : FailsWith e (Action.fail e : Action Client α) :=
  fun _ => .of_reads met_isTrace (.fail e) fun _ failed => ⟨rfl, (Prod.mk.inj failed).1.symm⟩

/-- Something else than scans is counted first. -/
theorem counted {s : Series} {e : Fault} (h : FailsWith e a) (n : Nat)
    (other : s.isOfScans = false) : FailsWith e (Client.count s n >>= fun _ => a) := by
  intro c
  obtain ⟨met, left, none, failed⟩ := h (Client.count s n c).2
  exact ⟨met, (Met.count n other c).trans left, none, failed⟩

theorem logged (event : Event) (e : Fault) :
    FailsWith e (Client.log event >>= fun _ => (Action.fail e : Action Client α)) :=
  fun _ => ⟨[], ⟨(List.append_nil _).symm, id, nofun, rfl, fun _ _ => rfl⟩, rfl, rfl⟩

end FailsWith

/-! What is asked of a connection. -/

theorem openConnection_fails (files : Files) : FailsAt (· = .connect) (openConnection files) := by
  refine .bind .get fun c => ?_
  cases c.service.backend with
  | direct =>
    refine .bind .nextConnection fun number => ?_
    refine .bind (.log _) fun _ => ?_
    exact .bind (.pass rfl) fun _ => .pure _
  | gateway =>
    refine .bind (.of_reads (gatewayAddress_reads files)) fun address => ?_
    refine .bind .nextConnection fun number => ?_
    refine .bind (.log _) fun _ => ?_
    refine .bind (.log _) fun _ => ?_
    exact .bind (.pass rfl) fun _ => .pure _

theorem closeConnection_fails (connection : Connection) :
    FailsAt (· = .close) (closeConnection connection) :=
  .bind (.note _) fun _ => .bind (.log _) fun _ => .pass rfl

theorem lookUp_fails (connection : Connection) (table : String) :
    FailsAt (·.closes = false) (lookUp connection table) :=
  .bind (.note _) fun _ => .pass rfl

theorem fillBatch_fails (cells : List RowCell) : FailsAt (·.closes = false) (fillBatch cells) := by
  induction cells with
  | nil => exact .pure ()
  | cons cell rest ih =>
    refine .bind (.ofExcept _) fun column => ?_
    refine .bind (.log _) fun _ => ?_
    exact .bind (.pass rfl) fun _ => ih

theorem sendRun_fails (table : String) (run : Run) :
    FailsAt (·.closes = false) (sendRun table run) := by
  refine .bind (.log _) fun _ => ?_
  refine .bind (.pass rfl) fun _ => ?_
  refine .rescue (fillBatch_fails run.cells) (fun _ => ?_) fun e => .logged _ e
  exact .bind (.log _) fun _ => .pass rfl

theorem sendRuns_fails (table : String) (runs : List Run) :
    FailsAt (·.closes = false) (sendRuns table runs) := by
  induction runs with
  | nil => exact .pure ()
  | cons run rest ih => exact .bind (sendRun_fails table run) fun _ => ih

theorem writeTable_fails (connection : Connection) (table : String) (mutations : List Mutation) :
    FailsAt (·.closes = false) (writeTable connection table mutations) := by
  refine .bind (lookUp_fails connection table) fun _ => ?_
  refine .bind (.note _) fun _ => ?_
  cases connection.backend with
  | direct => exact .bind (.log _) fun _ => .pass rfl
  | gateway => exact sendRuns_fails table _

/-! What is asked of a scanner. -/

theorem openScanner_fails (connection : Connection) (request : ScanRequest) :
    FailsAt (·.closes = false) (openScanner connection request) := by
  refine .bind (.note _) fun _ => ?_
  refine .bind ?_ fun _ => .bind (.note _) fun _ => .pure _
  unfold makeScanner
  cases connection.backend with
  | direct =>
    refine .bind (.ofExcept _) fun order => ?_
    refine .bind (.log _) fun _ => ?_
    exact .bind (.pass rfl) fun _ => .bind .get fun _ => .pure _
  | gateway =>
    refine .bind (lookUp_fails connection _) fun _ => ?_
    refine .bind (.ofExcept _) fun order => ?_
    refine .bind (.log _) fun _ => ?_
    exact .bind (.pass rfl) fun _ => .bind .get fun _ => .pure _

theorem closeScanner_passed (s : Scanner) (c : Client) :
    Action.Leaves Met c (closeScanner s) (Passed .scannerClose) := by
  have noted : Met [] c (note .scannerClosed c).2 :=
    ⟨(List.append_nil _).symm, id, nofun, rfl, fun _ _ => rfl⟩
  refine Passed.after noted ?_
  cases s.backend with
  | direct =>
    refine Passed.after ?_ (pass_passed .scannerClose _)
    exact ⟨(List.append_nil _).symm, id, nofun, rfl, fun _ _ => rfl⟩
  | gateway =>
    dsimp only
    split
    · exact ⟨[], ⟨(List.append_nil _).symm, id, nofun, rfl, fun _ _ => rfl⟩, .inl ⟨rfl, rfl⟩⟩
    · exact ⟨[], .refl _, .inl ⟨rfl, rfl⟩⟩

/-- The fault of a read is the one that is planned for it. -/
theorem readFault?_planned {s : Store} {index : Nat} {fault : Fault}
    (h : s.readFault? index = some fault) : ∃ after, s.plan .read = some ⟨after, fault⟩ := by
  unfold Store.readFault? at h
  cases planned : s.plan .read with
  | none =>
    rw [planned] at h
    cases h
  | some plan =>
    rw [planned] at h
    obtain ⟨-, same⟩ := Option.ite_none_right_eq_some.mp h
    cases same
    exact ⟨plan.after, rfl⟩

theorem checkRead_fails (index : Nat) : FailsAt (· = .read) (checkRead index) := by
  intro c
  cases occurs : c.store.readFault? index with
  | none =>
    have passed : checkRead index c = (.ok (), c) := by
      rw [checkRead, Action.get_bind, occurs]
      rfl
    refine ⟨[], ?_, .inl rfl⟩
    rw [passed]
    exact .refl c
  | some fault =>
    obtain ⟨after, planned⟩ := readFault?_planned occurs
    let incident : Incident := ⟨.point .read, fault⟩
    have occurred : checkRead index c =
        (.error fault, { c with store := c.store.meet incident }) := by
      rw [checkRead, Action.get_bind, occurs]
      rfl
    refine ⟨[incident], ?_, .inr ⟨.read, fault, rfl, rfl, ?_⟩⟩
    · rw [occurred]
      exact .occurred planned
    · rw [occurred]

theorem reach_fails (index : Nat) (row : Except Mismatch ScannedRow) :
    FailsAt (· = .read) (reach index row) :=
  .bind (checkRead_fails index) fun _ => .ofExcept _

theorem readGateway_fails (rows : List (Except Mismatch ScannedRow)) (index : Nat) :
    FailsAt (· = .read) (readGateway rows index) := by
  induction rows generalizing index with
  | nil =>
    refine .rescue (checkRead_fails index) (fun _ => ?_) fun e => .logged _ e
    exact .bind (.log _) fun _ => .pure _
  | cons row rest ih =>
    refine .rescue (reach_fails index row) (fun row => ?_) fun e => .logged _ e
    dsimp only
    split
    · exact ih (index + 1)
    · exact .pure _

theorem readRow_fails (s : Scanner) : FailsAt (· = .read) (readRow s) := by
  refine .bind (.note _) fun _ => ?_
  cases s.backend with
  | gateway => exact readGateway_fails s.remaining s.index
  | direct =>
    cases s.remaining with
    | nil => exact .bind (checkRead_fails s.index) fun _ => .pure _
    | cons row rest => exact .bind (reach_fails s.index row) fun _ => .pure _

end Client
end WideColumn
