import WideColumn.Proofs.Service.ScanOutcome

/-! How scans are counted. Every scan that gets a cursor is timed once. It is counted once too, as
a success or not, unless closing fails after its handler has; nothing else changes these counts. -/
namespace WideColumn

open WideColumn.Action (Keeps)
open Store (Incident)

namespace Client

/-- The uncounted scans of all tables. -/
def uncounted (c : Client) : String → Int := c.metrics.uncounted

variable {α : Type} {a : Action Client α} {c c' : Client} {met : List Incident}
  {handler : RowHandler} {table : String} {status : Option Bool}

theorem keeps_of_leaves {spec : Client → Except Fault α × Client → List Incident → Prop}
    (leaves : ∀ c, Action.Leaves Met c a (spec c)) : Keeps uncounted a := by
  intro c
  obtain ⟨met, left, -⟩ := leaves c
  exact Metrics.uncounted_of_same left.scans

/-! What is done through a client other than scanning. -/

theorem enableWith_keeps {files : Files} {meanwhile : Action Client Unit}
    (wraps : Wraps meanwhile) : Keeps uncounted (enableWith files meanwhile) :=
  keeps_of_leaves (enableWith_enabled wraps)

theorem enable_keeps (files : Files) : Keeps uncounted (enable files) :=
  keeps_of_leaves (enable_wraps files)

theorem enableRacing_keeps (files : Files) : Keeps uncounted (enableRacing files) :=
  enableWith_keeps (enable_wraps files)

theorem shutdown_keeps : Keeps uncounted shutdown := keeps_of_leaves shutdown_wraps

theorem put_keeps (table : String) (requests : List PutRequest) :
    Keeps uncounted (put table requests) :=
  keeps_of_leaves (put_wraps table requests)

theorem delete_keeps (table : String) (row : Option Bytes) :
    Keeps uncounted (delete table row) :=
  keeps_of_leaves (delete_wraps table row)

theorem tableName_keeps (table : String) : Keeps uncounted (tableName table) :=
  .bind (.of_reads requireConnection_reads) fun connection =>
    .bind (keeps_of_leaves (lookUp_fails connection table)) fun _ => .pure table

theorem next_keeps (cursor : Cursor) : Keeps uncounted (next cursor) :=
  keeps_of_leaves (next_interrupted cursor)

theorem closeCursor_keeps (cursor : Cursor) : Keeps uncounted (closeCursor cursor) :=
  keeps_of_leaves (closeCursor_passed cursor)

/-! Scanning. -/

/-- A client with a connection gives a cursor for a filter that can be read. -/
theorem openCursor_of_parse {connection : Connection} {request : ScanRequest}
    {expression : Option String} {filter : Option Filter.Node}
    (current : c.service.connection = some connection)
    (parsed : Filter.parse c.service.filters (expression.getD "").toList = .ok filter) :
    openCursor request expression c = (.ok (.waiting connection { request with filter }), c) := by
  have read : parseFilter expression c = (.ok filter, c) := by
    rw [parseFilter_eq, parsed]
    rfl
  have required := requireConnection_bind (fun connection => parseFilter expression >>=
    fun filter => pure (Cursor.waiting connection { request with filter })) c
  rw [current] at required
  exact required.trans (Action.bind_of_ok read)

/-- A scan whose handler has failed, and then closing what was left. -/
def Hidden (c c' : Client) : Prop := ∃ row e e', c'.store.incidents =
  c.store.incidents ++ [⟨.handler row, e⟩, ⟨.point .scannerClose, e'⟩]

theorem Ended.uncounted_iff {outcome : Except Fault (List ScannedRow)}
    (h : Ended handler outcome met status) : status = none ↔
      ∃ row e e', met = [⟨.handler row, e⟩, ⟨.point .scannerClose, e'⟩] := by
  cases h with
  | uncounted refused => exact iff_of_true rfl ⟨_, _, _, rfl⟩
  | counted handled =>
    refine iff_of_false nofun ?_
    rintro ⟨row, e, e', same⟩
    cases handled with
    | rows => cases same
    | aborted => cases same
    | failed interrupted =>
      obtain ⟨point, isPoint⟩ := interrupted.at_points ⟨.handler row, e⟩ (same ▸ .head _)
      cases isPoint

/-- A scan that is not counted has failed. -/
theorem Ended.status_eq {outcome : Except Fault (List ScannedRow)}
    (h : Ended handler outcome met status) :
    status = none ∧ outcome.toBool = false ∨ status = some outcome.toBool := by
  cases h with
  | counted handled => exact .inr rfl
  | uncounted refused => exact .inl ⟨rfl, rfl⟩

theorem Scanned.hidden_iff {outcome : Except Fault (List ScannedRow)}
    (h : Scanned table status met c c') (ended : Ended handler outcome met status) :
    Hidden c c' ↔ status = none := by
  rw [ended.uncounted_iff]
  unfold Hidden
  rw [h.noted]
  exact exists₃_congr fun _ _ _ => List.append_right_inj _

/-- The count of a scan that is timed makes up for it. -/
theorem Scanned.uncounted (h : Scanned table status met c c') (t : String) :
    c'.uncounted t = c.uncounted t + if t = table ∧ status = none then 1 else 0 := by
  unfold Client.uncounted Metrics.uncounted
  rw [h.timed, h.scans, h.scans]
  by_cases same : t = table
  · rcases status with - | success
    · simp only [same, true_and, reduceCtorEq, if_true, if_false]
      omega
    · cases success <;> simp only [same, true_and, reduceCtorEq, if_true, if_false,
        Option.some.injEq] <;> omega
  · simp only [same, false_and, if_false]
    omega

/-- Each scan: it is hidden and has not been counted, or there is none that has not been. -/
theorem scan_uncounted (request : ScanRequest) (expression : Option String) (handler : RowHandler)
    (c : Client) :
    (Hidden c (scan request expression handler c).2 ∧
        (∃ index row e, handler index row = .error e) ∧
        ∀ t, (scan request expression handler c).2.uncounted t =
          c.uncounted t + if t = request.table then 1 else 0) ∨
      ¬ Hidden c (scan request expression handler c).2 ∧
        (scan request expression handler c).2.uncounted = c.uncounted := by
  have unhidden : ¬ Hidden c c := by
    rintro ⟨row, e, e', noted⟩
    cases List.self_eq_append_right.mp noted
  rcases openCursor_outcome request expression c with
    ⟨e, failed⟩ | ⟨connection, filter, -, opened⟩
  · have stopped : scan request expression handler c = (.error e, c) :=
      Action.bind_of_error failed
    rw [stopped]
    exact .inr ⟨unhidden, rfl⟩
  · obtain ⟨met, status, scanned, ended⟩ := scan_ended opened handler
    rw [scanned.hidden_iff ended]
    generalize (scan request expression handler c).1 = outcome at ended
    cases ended with
    | @uncounted index row e e' refused =>
      refine .inl ⟨rfl, ⟨index, row, e, refused⟩, fun t => ?_⟩
      simpa using scanned.uncounted t
    | counted handled =>
      refine .inr ⟨nofun, funext fun t => ?_⟩
      simpa using scanned.uncounted t

/-- A scan whose handler takes every row is counted if it is timed. -/
theorem scan_keeps (request : ScanRequest) (expression : Option String) {handler : RowHandler}
    (takes : ∀ index row, ∃ events, handler index row = .ok events) :
    Keeps uncounted (scan request expression handler) := by
  intro c
  rcases scan_uncounted request expression handler c with
    ⟨-, ⟨index, row, e, refused⟩, -⟩ | ⟨-, same⟩
  · obtain ⟨events, taken⟩ := takes index row
    cases taken.symm.trans refused
  · exact same

end Client
end WideColumn
