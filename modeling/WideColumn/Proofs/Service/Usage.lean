import WideColumn.Proofs.Action
import WideColumn.Proofs.Service.Cursor

/-! Which connection the operations use. Each requires a connection first; all that it then asks of
the store it asks on that one, and a client without a connection makes no calls. -/
namespace WideColumn

open Store (Call)

/-- A cursor that uses no other connection than one when it is asked for a row. -/
def Cursor.IsOn (connection : Nat) (cursor : Cursor) : Prop :=
  ∀ used request, cursor = .waiting used request → used.number = connection

theorem Cursor.IsOn.waiting (connection : Connection) (request : ScanRequest) :
    IsOn connection.number (.waiting connection request) := by
  rintro used sent same
  cases same
  rfl

namespace Client

variable {α : Type}

/-- What an operation does to a client: its calls are on the connection of the client, and there are
none if it has none. -/
structure Operated (calls : List Call) (c c' : Client) : Prop extends After calls c c' where
  disabled : c.service.connection = none → calls = []
  enabled : ∀ connection, c.service.connection = some connection →
    ∀ call ∈ calls, call.IsOn connection.number

namespace Operated

theorem of_after {c c' : Client} (after : After [] c c') : Operated [] c c' :=
  ⟨after, fun _ => rfl, fun _ _ => List.forall_mem_nil _⟩

end Operated

def Worked (c c' : Client) : Prop := ∃ calls, Operated calls c c'

theorem Worked.refl (c : Client) : Worked c c := ⟨[], .of_after (.refl c)⟩

/-- An action that is an operation, from whatever client. -/
def Operates (a : Action Client α) : Prop := a.Obeys Worked

theorem worked_of_on {c : Client} {connection : Connection} {a : Action Client α}
    (current : c.service.connection = some connection)
    (on : MakesOnly (·.IsOn connection.number) a) : Worked c (a c).2 := by
  obtain ⟨calls, after, isOn⟩ := on c
  refine ⟨calls, after, ?_, ?_⟩
  · intro none
    cases current.symm.trans none
  · intro same current'
    cases current.symm.trans current'
    exact isOn

/-- An action that requires a connection, and then asks on that one. -/
theorem operates_of_require {f : Connection → Action Client α}
    (on : ∀ connection, MakesOnly (·.IsOn connection.number) (f connection)) :
    Operates (requireConnection >>= f) := by
  intro c
  rw [requireConnection_bind]
  cases current : c.service.connection with
  | none => exact .refl c
  | some connection => exact worked_of_on current (on connection)

theorem put_operates (table : String) (requests : List PutRequest) :
    Operates (put table requests) := by
  refine operates_of_require fun connection => ?_
  cases Mutation.batchByTable (some table) requests with
  | error row => exact .fail _
  | ok tables => exact putTables_calls connection tables.entries

theorem delete_operates (table : String) (row : Option Bytes) : Operates (delete table row) := by
  refine operates_of_require fun connection => ?_
  refine .bind (.attempt ?_) fun deleted => ?_
  · refine .bind (lookUp_calls connection table) fun _ => ?_
    refine .bind (.note (Call.isOn_of_connection rfl)) fun _ => ?_
    exact Silent.makesOnly (.bind (.log _) fun _ => .pass _) _
  · cases deleted with
    | ok => exact .pure ()
    | error e => exact Silent.makesOnly (.bind (.count _ _) fun _ => .fail _) _

theorem tableName_operates (table : String) : Operates (tableName table) :=
  operates_of_require fun connection => .bind (lookUp_calls connection table) fun _ => .pure table

/-! Scans. A cursor waits on one connection; once it has been asked for a row it waits no more. -/

variable {request : ScanRequest} {rows number : Nat} {calls : List Call} {cursor : Cursor}
  {outcome : Except Fault (Option ScannedRow × Cursor)}

theorem Advanced.isOnScanner (h : Advanced request rows outcome calls) :
    ∀ call ∈ calls, call.IsOnScanner := by
  have asked : ∀ call ∈ Advanced.asked request rows, call.IsOnScanner := by
    unfold Advanced.asked
    split
    · exact List.forall_mem_nil _
    · exact List.forall_mem_singleton.mpr (.inl rfl)
  have closed : ∀ calls, calls = Advanced.asked request rows ++ [.scannerClosed] →
      ∀ call ∈ calls, call.IsOnScanner := by
    rintro _ rfl call member
    rcases List.mem_append.mp member with before | last
    · exact asked call before
    · exact .inr (List.mem_singleton.mp last)
  rcases outcome with e | ⟨_ | row, left⟩
  · exact closed calls h
  · exact closed calls h.2
  · obtain ⟨-, rfl, -⟩ := h
    exact List.forall_mem_singleton.mpr (.inl rfl)

theorem Advanced.unwaiting (h : Advanced request rows outcome calls) (connection : Connection)
    (sent : ScanRequest) : Cursor.after outcome ≠ .waiting connection sent := by
  rcases outcome with e | ⟨_ | row, left⟩
  · nofun
  · obtain ⟨rfl, -⟩ := h
    nofun
  · obtain ⟨-, -, s, rfl⟩ := h
    nofun

/-- A cursor that has been asked for a row does not wait any more. -/
theorem Stepped.unwaiting (h : Stepped cursor outcome calls) (connection : Connection)
    (sent : ScanRequest) : Cursor.after outcome ≠ .waiting connection sent := by
  cases cursor with
  | finished =>
    obtain ⟨rfl, -⟩ := h
    nofun
  | reading s request rows => exact Advanced.unwaiting h connection sent
  | waiting first request =>
    obtain ⟨lookUps, -, ⟨⟨e, rfl⟩, -⟩ | ⟨more, advanced, -⟩⟩ := h
    · nofun
    · exact advanced.unwaiting connection sent

/-- What a cursor asks of the store when it is asked for a row, it asks on the connection that it
waits on. -/
theorem Stepped.isOn (h : Stepped cursor outcome calls) (on : cursor.IsOn number) :
    ∀ call ∈ calls, call.IsOn number := by
  cases cursor with
  | finished =>
    obtain ⟨-, rfl⟩ := h
    exact List.forall_mem_nil _
  | reading s request rows =>
    exact fun call member => (Advanced.isOnScanner h call member).isOn number
  | waiting connection request =>
    obtain ⟨lookUps, areLookUps, made⟩ := h
    obtain rfl : connection.number = number := on connection request rfl
    have opening : ∀ call ∈ Call.scannerAsked connection.number request.table :: lookUps,
        call.IsOn connection.number := by
      refine List.forall_mem_cons.mpr ⟨Call.isOn_of_connection rfl, ?_⟩
      intro call member
      obtain ⟨table, rfl⟩ := areLookUps call member
      exact Call.isOn_of_connection rfl
    rcases made with ⟨-, rfl⟩ | ⟨more, advanced, rfl⟩
    · exact opening
    · intro call member
      rcases List.mem_append.mp member with before | later
      · exact opening call before
      · rcases List.mem_cons.mp later with rfl | last
        · exact ⟨⟨rfl, rfl⟩, nofun⟩
        · exact (advanced.isOnScanner call last).isOn _

theorem Stepped.plain (h : Stepped cursor outcome calls) : ∀ call ∈ calls, call.IsPlain := by
  obtain ⟨number, on⟩ : ∃ number, cursor.IsOn number := by
    cases cursor with
    | waiting connection request => exact ⟨connection.number, .waiting connection request⟩
    | reading | finished => exact ⟨0, nofun⟩
  exact fun call member => (h.isOn on call member).toIsPlain

/-- Only a cursor that waits uses a connection when it is asked for a row. -/
theorem Stepped.waits (h : Stepped cursor outcome calls) {call : Call} (member : call ∈ calls)
    {n : Nat} (uses : call.connection? = some n) :
    ∃ connection request, cursor = .waiting connection request ∧ connection.number = n := by
  cases cursor with
  | waiting connection request =>
    have on := h.isOn (.waiting connection request) call member
    exact ⟨connection, request, rfl, (on.uses n uses).symm⟩
  | reading s request rows =>
    cases uses.symm.trans (Advanced.isOnScanner h call member).unused
  | finished =>
    obtain ⟨-, rfl⟩ := h
    cases member

theorem closeCursor_onScanner (cursor : Cursor) :
    MakesOnly Call.IsOnScanner (closeCursor cursor) := by
  intro c
  refine (closeCursor_calls cursor c).mono ?_
  rintro _ _ rfl
  cases cursor with
  | reading s request rows => exact List.forall_mem_singleton.mpr (.inr rfl)
  | waiting connection request => exact List.forall_mem_nil _
  | finished => exact List.forall_mem_nil _

theorem handleRows_calls (handler : RowHandler) (fuel : Nat) (handled : List ScannedRow)
    (on : cursor.IsOn number) :
    MakesOnly (·.IsOn number) (handleRows handler fuel handled cursor) := by
  induction fuel generalizing handled cursor with
  | zero => exact .pure _
  | succ fuel ih =>
    intro c
    refine .bind_attempt (next_calls cursor c) ?_
    rintro outcome calls c' - - stepped
    have before := stepped.isOn on
    have unwaiting : (Cursor.after outcome).IsOn number := fun used sent waits =>
      absurd waits (stepped.unwaiting used sent)
    have goesOn : ∀ {β : Type} {a : Action Client β}, MakesOnly (·.IsOn number) a →
        Makes c' a fun _ more => ∀ call ∈ calls ++ more, call.IsOn number := by
      intro β a later
      refine (later c').mono fun _ more areOn => ?_
      exact List.forall_mem_append.mpr ⟨before, areOn⟩
    rcases outcome with e | ⟨_ | row, left⟩
    · exact goesOn (.pure _)
    · exact goesOn (.pure _)
    · refine goesOn ?_
      dsimp only
      cases handler handled.length row with
      | error e =>
        refine Silent.makesOnly ?_ _
        exact .bind (.meet _) fun _ => .bind (.count _ _) fun _ => .pure _
      | ok events =>
        refine .bind (Silent.makesOnly (logAll_silent events) _) fun _ => ?_
        exact ih (handled ++ [row]) unwaiting

theorem scan_operates (request : ScanRequest) (expression : Option String) (handler : RowHandler) :
    Operates (scan request expression handler) := by
  intro c
  unfold scan
  rcases openCursor_outcome request expression c with
    ⟨e, failed⟩ | ⟨connection, filter, current, opened⟩
  · rw [Action.bind_of_error failed]
    exact .refl c
  · rw [Action.bind_of_ok opened]
    refine worked_of_on current ?_
    have on := Cursor.IsOn.waiting connection { request with filter }
    refine .bind (Silent.get.makesOnly _) fun start => ?_
    refine .bind (handleRows_calls handler _ [] on) fun ⟨result, left⟩ => ?_
    refine .bind (Silent.makesOnly (.count _ _) _) fun _ => ?_
    refine .bind ((closeCursor_onScanner left).mono fun _ onScanner => onScanner.isOn _) fun _ => ?_
    refine Silent.makesOnly (.bind (.count _ _) fun _ => ?_) _
    cases result with
    | ok rows => exact .bind (.update fun _ => rfl) fun _ => .pure rows
    | error e => exact .fail e

end Client
end WideColumn
