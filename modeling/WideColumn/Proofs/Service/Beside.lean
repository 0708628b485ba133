import WideColumn.Proofs.Service.Calls

/-! What only touches the store. Connections, scanners and what is written go through the store; the
service and the metrics are beside it, and are changed by none of this. Nor is a table asked to put
anything but by writing it. -/
namespace WideColumn

open WideColumn.Action (Keeps)
open Store (Call Event Point)

namespace Store

/-- A call of a table that is asked to put mutations, with the number of its connection. -/
abbrev PutCall := Nat × String × List Mutation

def Call.put? : Call → Option PutCall
  | put connection table mutations => some (connection, table, mutations)
  | _ => none

/-- The calls of tables that have been asked to put mutations, in order. -/
def puts (s : Store) : List PutCall := s.calls.filterMap fun made => made.call.put?

theorem puts_note (s : Store) (made : Made) :
    (s.note made).puts = s.puts ++ made.call.put?.toList := by
  rw [puts, note, List.filterMap_append]
  cases put : made.call.put? <;> simp [put, puts]

theorem puts_pass (s : Store) (point : Point) : (s.pass point).2.puts = s.puts := by
  unfold pass
  split <;> rfl

end Store

namespace Client

/-- What is not of the store, and the puts that tables have been asked for. -/
def beside (c : Client) : (Service × Metrics) × List Store.PutCall :=
  ((c.service, c.metrics), c.store.puts)

theorem log_beside (e : Event) : Keeps beside (log e) := .modify fun _ => rfl

theorem note_beside {call : Call} (other : call.put? = none) : Keeps beside (note call) := by
  refine .modify fun c => congrArg ((c.service, c.metrics), ·) ?_
  rw [Store.puts_note, other]
  exact List.append_nil _

theorem meet_beside (incident : Store.Incident) : Keeps beside (meet incident) :=
  .modify fun _ => rfl

theorem pass_beside (point : Point) : Keeps beside (pass point) := by
  intro c
  rw [pass_state]
  exact congrArg ((c.service, c.metrics), ·) (c.store.puts_pass point)

theorem logAll_beside (events : List Event) : Keeps beside (logAll events) := by
  induction events with
  | nil => exact .pure ()
  | cons e rest ih => exact .bind (log_beside e) fun _ => ih

/-! Connections. -/

theorem gatewayAddress_reads (files : Files) : (gatewayAddress files).Reads := by
  refine .bind .get fun c => ?_
  refine .bind (.ofExcept _) fun site => ?_
  cases c.service.strayKey with
  | none => exact .ofExcept _
  | some key => exact .bind (.fail _) fun _ => .ofExcept _

theorem openConnection_beside (files : Files) : Keeps beside (openConnection files) := by
  have numbered : Keeps beside nextConnection := fun _ => rfl
  refine .bind .get fun c => ?_
  cases c.service.backend with
  | direct =>
    refine .bind numbered fun number => .bind (log_beside _) fun _ => ?_
    exact .bind (pass_beside _) fun _ => .pure _
  | gateway =>
    refine .bind (.of_reads (gatewayAddress_reads files)) fun address => ?_
    refine .bind numbered fun number => .bind (log_beside _) fun _ => ?_
    exact .bind (log_beside _) fun _ => .bind (pass_beside _) fun _ => .pure _

theorem closeConnection_beside (connection : Connection) :
    Keeps beside (closeConnection connection) :=
  .bind (note_beside rfl) fun _ => .bind (log_beside _) fun _ => pass_beside _

theorem lookUp_beside (connection : Connection) (table : String) :
    Keeps beside (lookUp connection table) :=
  .bind (note_beside rfl) fun _ => pass_beside _

/-! Writing. -/

theorem fillBatch_beside (cells : List RowCell) : Keeps beside (fillBatch cells) := by
  induction cells with
  | nil => exact .pure ()
  | cons cell rest ih =>
    refine .bind (.ofExcept _) fun column => ?_
    exact .bind (log_beside _) fun _ => .bind (pass_beside _) fun _ => ih

theorem sendRun_beside (table : String) (run : Run) : Keeps beside (sendRun table run) := by
  refine .bind (log_beside _) fun _ => ?_
  refine .bind (pass_beside _) fun _ => ?_
  refine .bind (.attempt (fillBatch_beside run.cells)) fun filled => ?_
  cases filled with
  | ok => exact .bind (log_beside _) fun _ => pass_beside _
  | error e => exact .bind (log_beside _) fun _ => .fail e

theorem sendRuns_beside (table : String) (runs : List Run) :
    Keeps beside (sendRuns table runs) := by
  induction runs with
  | nil => exact .pure ()
  | cons run rest ih => exact .bind (sendRun_beside table run) fun _ => ih

/-- Writing a table leaves the service and the metrics alone, though it asks for a put. -/
theorem writeTable_beside (connection : Connection) (table : String) (mutations : List Mutation) :
    Keeps (fun c => (c.service, c.metrics)) (writeTable connection table mutations) := by
  have apart {α : Type} {a : Action Client α} (h : Keeps beside a) :
      Keeps (fun c => (c.service, c.metrics)) a := fun c => congrArg Prod.fst (h c)
  refine .bind (apart (lookUp_beside connection table)) fun _ => ?_
  refine .bind (.modify fun _ => rfl) fun _ => ?_
  cases connection.backend with
  | direct => exact .bind (apart (log_beside _)) fun _ => apart (pass_beside _)
  | gateway => exact apart (sendRuns_beside table _)

/-! Scanning. -/

theorem openScanner_beside (connection : Connection) (request : ScanRequest) :
    Keeps beside (openScanner connection request) := by
  refine .bind (note_beside rfl) fun _ => .bind ?_ fun _ => .bind (note_beside rfl) fun _ => .pure _
  unfold makeScanner
  cases connection.backend with
  | direct =>
    refine .bind (.ofExcept _) fun order => .bind (log_beside _) fun _ => ?_
    exact .bind (pass_beside _) fun _ => .bind .get fun _ => .pure _
  | gateway =>
    refine .bind (lookUp_beside _ _) fun _ => .bind (.ofExcept _) fun order => ?_
    refine .bind (log_beside _) fun _ => .bind (pass_beside _) fun _ => ?_
    exact .bind .get fun _ => .pure _

theorem closeScanner_beside (s : Scanner) : Keeps beside (closeScanner s) := by
  refine .bind (note_beside rfl) fun _ => ?_
  cases s.backend with
  | direct => exact .bind (log_beside _) fun _ => pass_beside _
  | gateway =>
    dsimp only
    split
    · exact log_beside _
    · exact .pure ()

theorem closeCursor_beside (cursor : Cursor) : Keeps beside (closeCursor cursor) := by
  cases cursor with
  | waiting | finished => exact .pure ()
  | reading s request rows => exact closeScanner_beside s

theorem checkRead_beside (index : Nat) : Keeps beside (checkRead index) := by
  refine .bind .get fun c => ?_
  cases c.store.readFault? index with
  | none => exact .pure ()
  | some fault => exact .bind (meet_beside _) fun _ => .fail fault

theorem reach_beside (index : Nat) (row : Except Mismatch ScannedRow) :
    Keeps beside (reach index row) := .bind (checkRead_beside index) fun _ => .ofExcept _

theorem readGateway_beside (rows : List (Except Mismatch ScannedRow)) (index : Nat) :
    Keeps beside (readGateway rows index) := by
  induction rows generalizing index with
  | nil =>
    refine .bind (.attempt (checkRead_beside index)) fun checked => ?_
    cases checked with
    | ok => exact .bind (log_beside _) fun _ => .pure _
    | error e => exact .bind (log_beside _) fun _ => .fail e
  | cons row rest ih =>
    refine .bind (.attempt (reach_beside index row)) fun reached => ?_
    cases reached with
    | ok row =>
      dsimp only
      split
      · exact ih (index + 1)
      · exact .pure _
    | error e => exact .bind (log_beside _) fun _ => .fail e

theorem readRow_beside (s : Scanner) : Keeps beside (readRow s) := by
  refine .bind (note_beside rfl) fun _ => ?_
  cases s.backend with
  | gateway => exact readGateway_beside s.remaining s.index
  | direct =>
    cases s.remaining with
    | nil => exact .bind (checkRead_beside s.index) fun _ => .pure _
    | cons row rest => exact .bind (reach_beside s.index row) fun _ => .pure _

end Client
end WideColumn
