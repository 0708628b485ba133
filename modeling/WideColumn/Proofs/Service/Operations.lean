import WideColumn.Proofs.Service.Calls

/-! The calls of reading and writing. Everything that an operation asks of the store is asked on the
connection that it requires first; a cursor asks on the connection that it has been given, once, and
of its scanner afterwards. -/
namespace WideColumn

open Store (Call Event Made Point)

namespace Store.Call

/-- The connection on which a table is looked up, written to or deleted from, or a scanner asked
for. -/
def connection? : Call → Option Nat
  | lookedUp n _ | put n _ _ | deleted n _ _ | scannerAsked n _ => some n
  | connected _ | disconnected _ | scannerOpened | rowAsked | scannerClosed => none

def connected? : Call → Option Nat
  | connected n => some n
  | _ => none

def disconnected? : Call → Option Nat
  | disconnected n => some n
  | _ => none

/-- A call that neither hands a connection over nor closes one. -/
structure IsPlain (call : Call) : Prop where
  opensNone : call.connected? = none
  closesNone : call.disconnected? = none

/-- A plain call that uses no other connection than the given one. -/
structure IsOn (connection : Nat) (call : Call) : Prop extends call.IsPlain where
  uses : ∀ n, call.connection? = some n → n = connection

/-- A call on a connection is a plain one on that connection. -/
theorem isOn_of_connection {call : Call} {n : Nat} (uses : call.connection? = some n) :
    call.IsOn n := by
  refine ⟨⟨?_, ?_⟩, fun m same => Option.some.inj (same.symm.trans uses)⟩
  · cases call <;> first | rfl | cases uses
  · cases call <;> first | rfl | cases uses

/-- A call on an open scanner. -/
def IsOnScanner (call : Call) : Prop := call = rowAsked ∨ call = scannerClosed

theorem IsOnScanner.isOn {call : Call} (h : call.IsOnScanner) (connection : Nat) :
    call.IsOn connection := by
  rcases h with rfl | rfl
  · exact ⟨⟨rfl, rfl⟩, nofun⟩
  · exact ⟨⟨rfl, rfl⟩, nofun⟩

theorem IsOnScanner.unused {call : Call} (h : call.IsOnScanner) : call.connection? = none := by
  rcases h with rfl | rfl
  · rfl
  · rfl

end Store.Call

namespace Client

variable (connection : Connection)

theorem lookUp_calls (table : String) :
    MakesOnly (·.IsOn connection.number) (lookUp connection table) :=
  .bind (.note (Call.isOn_of_connection rfl)) fun _ => (Silent.pass _).makesOnly _

theorem fillBatch_silent (cells : List RowCell) : Silent (fillBatch cells) := by
  induction cells with
  | nil => exact .pure ()
  | cons cell rest ih =>
    refine .bind (.ofExcept _) fun column => ?_
    refine .bind (.log _) fun _ => ?_
    exact .bind (.pass _) fun _ => ih

theorem sendRun_silent (table : String) (run : Run) : Silent (sendRun table run) := by
  refine .bind (.log _) fun _ => ?_
  refine .bind (.pass _) fun _ => ?_
  refine .bind (.attempt (fillBatch_silent run.cells)) fun filled => ?_
  cases filled with
  | ok => exact .bind (.log _) fun _ => .pass _
  | error e => exact .bind (.log _) fun _ => .fail e

theorem sendRuns_silent (table : String) (runs : List Run) : Silent (sendRuns table runs) := by
  induction runs with
  | nil => exact .pure ()
  | cons run rest ih => exact .bind (sendRun_silent table run) fun _ => ih

/-- Putting a table looks it up and puts it. -/
theorem putTable_makesOnly {kind : Call → Prop} {table : String} {mutations : List Mutation}
    (looksUp : kind (.lookedUp connection.number table))
    (puts : kind (.put connection.number table mutations)) :
    MakesOnly kind (putTable connection table mutations) := by
  have writes : MakesOnly kind (writeTable connection table mutations) := by
    refine .bind (.bind (.note looksUp) fun _ => (Silent.pass _).makesOnly _) fun _ => ?_
    refine .bind (.note puts) fun _ => Silent.makesOnly ?_ _
    cases connection.backend with
    | direct => exact .bind (.log _) fun _ => .pass _
    | gateway => exact sendRuns_silent table _
  refine .bind (.attempt writes) fun written => ?_
  refine Silent.makesOnly ?_ _
  refine .bind (.count _ _) fun _ => ?_
  cases written with
  | ok =>
    refine .bind (.count _ _) fun _ => ?_
    refine .bind (.count _ _) fun _ => ?_
    refine .bind (.count _ _) fun _ => ?_
    refine .bind (.observeBatch _ _) fun _ => ?_
    exact .update fun _ => rfl
  | error e =>
    dsimp only
    split
    · exact .bind (.count _ _) fun _ => .bind (.count _ _) fun _ => .fail _
    · exact .bind (.count _ _) fun _ => .fail _

theorem putTables_makesOnly {kind : Call → Prop} {tables : List (String × List Mutation)}
    (areKind : ∀ t ∈ tables, kind (.lookedUp connection.number t.1) ∧
      kind (.put connection.number t.1 t.2)) : MakesOnly kind (putTables connection tables) := by
  induction tables with
  | nil => exact .pure ()
  | cons t rest ih =>
    obtain ⟨first, others⟩ := List.forall_mem_cons.mp areKind
    exact .bind (putTable_makesOnly connection first.1 first.2) fun _ => ih others

theorem putTables_calls (tables : List (String × List Mutation)) :
    MakesOnly (·.IsOn connection.number) (putTables connection tables) :=
  putTables_makesOnly connection fun _ _ =>
    ⟨Call.isOn_of_connection rfl, Call.isOn_of_connection rfl⟩

theorem requireConnection_reads : requireConnection.Reads := by
  refine .bind .get fun c => ?_
  cases c.service.connection with
  | some connection => exact .pure connection
  | none => exact .fail _

/-- What an operation leads to that requires a connection. -/
theorem requireConnection_bind {α : Type} (f : Connection → Action Client α) (c : Client) :
    (requireConnection >>= f) c =
      match c.service.connection with
      | some connection => f connection c
      | none => (.error (.notEnabled c.service.name), c) := by
  unfold requireConnection
  cases found : c.service.connection with
  | some connection =>
    refine Action.bind_of_ok ?_
    rw [Action.get_bind]
    simp only [found]
    rfl
  | none =>
    refine Action.bind_of_error ?_
    rw [Action.get_bind]
    simp only [found]
    rfl

theorem checkRead_silent (index : Nat) : Silent (checkRead index) := by
  refine .bind .get fun c => ?_
  cases c.store.readFault? index with
  | none => exact .pure ()
  | some fault => exact .bind (.meet _) fun _ => .fail fault

theorem reach_silent (index : Nat) (row : Except Mismatch ScannedRow) : Silent (reach index row) :=
  .bind (checkRead_silent index) fun _ => .ofExcept _

theorem readGateway_silent (rows : List (Except Mismatch ScannedRow)) (index : Nat) :
    Silent (readGateway rows index) := by
  induction rows generalizing index with
  | nil =>
    refine .bind (.attempt (checkRead_silent index)) fun checked => ?_
    cases checked with
    | ok => exact .bind (.log _) fun _ => .pure _
    | error e => exact .bind (.log _) fun _ => .fail e
  | cons row rest ih =>
    refine .bind (.attempt (reach_silent index row)) fun reached => ?_
    cases reached with
    | ok row =>
      dsimp only
      split
      · exact ih (index + 1)
      · exact .pure _
    | error e => exact .bind (.log _) fun _ => .fail e

theorem readRow_calls (s : Scanner) (c : Client) :
    Makes c (readRow s) fun _ calls => calls = [.rowAsked] := by
  refine .note_silent ?_
  cases s.backend with
  | gateway => exact readGateway_silent s.remaining s.index
  | direct =>
    cases s.remaining with
    | nil => exact .bind (checkRead_silent s.index) fun _ => .pure _
    | cons row rest => exact .bind (reach_silent s.index row) fun _ => .pure _

theorem closeScanner_calls (s : Scanner) (c : Client) :
    Makes c (closeScanner s) fun _ calls => calls = [.scannerClosed] := by
  refine .note_silent ?_
  cases s.backend with
  | direct => exact .bind (.log _) fun _ => .pass _
  | gateway =>
    dsimp only
    split
    · exact .log _
    · exact .pure ()

theorem makeScanner_calls (request : ScanRequest) :
    MakesOnly (fun call => ∃ table, call = .lookedUp connection.number table)
      (makeScanner connection request) := by
  unfold makeScanner
  cases connection.backend with
  | direct =>
    refine Silent.makesOnly ?_ _
    refine .bind (.ofExcept _) fun order => ?_
    refine .bind (.log _) fun _ => ?_
    refine .bind (.pass _) fun _ => ?_
    exact .bind .get fun _ => .pure _
  | gateway =>
    refine .bind ?_ fun _ => Silent.makesOnly ?_ _
    · exact .bind (.note ⟨request.table, rfl⟩) fun _ => (Silent.pass _).makesOnly _
    refine .bind (.ofExcept _) fun order => ?_
    refine .bind (.log _) fun _ => ?_
    refine .bind (.pass _) fun _ => ?_
    exact .bind .get fun _ => .pure _

/-- The calls that open a scanner: it is asked for, a table may be looked up for it, and it counts
as opened if it is handed over. -/
theorem openScanner_calls (request : ScanRequest) (c : Client) :
    Makes c (openScanner connection request) fun outcome calls =>
      ∃ lookUps, (∀ call ∈ lookUps, ∃ table, call = .lookedUp connection.number table) ∧
        calls = .scannerAsked connection.number request.table :: lookUps ++
          (match outcome with
          | .ok _ => [.scannerOpened]
          | .error _ => []) := by
  refine .note_bind fun c' => ?_
  refine .bind (makeScanner_calls connection request c') ?_ ?_
  · rintro s lookUps c'' - - areLookUps
    exact ⟨[.scannerOpened], ⟨rfl, rfl, Nat.le_refl _, rfl⟩, lookUps, areLookUps, rfl⟩
  · rintro e lookUps - areLookUps
    exact ⟨lookUps, areLookUps, (List.append_nil _).symm⟩

end Client
end WideColumn
