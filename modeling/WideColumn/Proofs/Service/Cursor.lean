import WideColumn.Proofs.Action
import WideColumn.Proofs.Service.Operations

/-! The life of a scanner. A cursor opens it when the first row is asked for, asks it for no more
rows than the limit allows, and closes it once: however the rows end, whatever fails, and whatever
happens to the client between two calls on the cursor. -/
namespace WideColumn

open Store (Call Made)

/-- What is left of a cursor that has been asked for a row. One that fails is finished. -/
def Cursor.after : Except Fault (Option ScannedRow × Cursor) → Cursor
  | .ok (_, cursor) => cursor
  | .error _ => .finished

def Store.Call.isOfScanner : Call → Bool
  | scannerOpened | rowAsked | scannerClosed => true
  | connected _ | disconnected _ | lookedUp .. | put .. | deleted .. | scannerAsked .. => false

/-- The calls that open, use and close scanners. -/
def scannerCalls (calls : List Call) : List Call := calls.filter Call.isOfScanner

@[simp] theorem scannerCalls_nil : scannerCalls [] = [] := rfl

@[simp] theorem scannerCalls_cons (call : Call) (calls : List Call) :
    scannerCalls (call :: calls) =
      if call.isOfScanner then call :: scannerCalls calls else scannerCalls calls :=
  List.filter_cons

@[simp] theorem scannerCalls_append (calls more : List Call) :
    scannerCalls (calls ++ more) = scannerCalls calls ++ scannerCalls more :=
  List.filter_append ..

/-- A number of rows that a limit allows. -/
def Allows (limit : Option Int) (rows : Nat) : Prop := ∀ most, limit = some most → rows ≤ max most 0

/-- The use of a scanner that has come to its end: none was opened; or one was, and it was closed
after it had been asked for as many rows as the limit allows at most. -/
def Released (limit : Option Int) (calls : List Call) : Prop :=
  calls = [] ∨ ∃ rows, Allows limit rows ∧
    calls = .scannerOpened :: (List.replicate rows .rowAsked ++ [.scannerClosed])

/-- How the scanner of a cursor has been used so far. -/
def Cursor.Used (limit : Option Int) : Cursor → List Call → Prop
  | .waiting _ request, calls => request.limit = limit ∧ calls = []
  | .reading _ request rows, calls => request.limit = limit ∧ Allows limit rows ∧
      calls = .scannerOpened :: List.replicate rows .rowAsked
  | .finished, calls => Released limit calls

namespace Client

/-- What asking an open scanner for a row comes to. A row is not asked for when the limit has been
reached, and the scanner is closed unless there is a row. -/
def Advanced (request : ScanRequest) (rows : Nat) :
    Except Fault (Option ScannedRow × Cursor) → List Call → Prop
  | .ok (some _, cursor), calls => request.isDone rows = false ∧ calls = [.rowAsked] ∧
      ∃ s, cursor = .reading s request (rows + 1)
  | .ok (none, cursor), calls => cursor = .finished ∧ calls = asked ++ [.scannerClosed]
  | .error _, calls => calls = asked ++ [.scannerClosed]
where
  asked : List Call := if request.isDone rows then [] else [.rowAsked]

variable {request : ScanRequest} {rows : Nat}

/-- Closing a scanner, at the end of its rows or after a fault. -/
theorem closeScanner_advanced {asked : List Call} (isAsked : asked = Advanced.asked request rows)
    (s : Scanner) (c : Client) {a : Action Client (Option ScannedRow × Cursor)}
    (ends : a = pure (none, .finished) ∨ ∃ e, a = Action.fail e) :
    Makes c (closeScanner s >>= fun _ => a) fun outcome calls =>
      Advanced request rows outcome (asked ++ calls) := by
  subst isAsked
  refine .bind (closeScanner_calls s c) ?_ ?_
  · rintro _ _ c' - - rfl
    rcases ends with rfl | ⟨e, rfl⟩
    · exact .pure ⟨rfl, rfl⟩
    · exact .fail rfl
  · rintro e _ - rfl
    exact rfl

theorem advance_calls (s : Scanner) (request : ScanRequest) (rows : Nat) (c : Client) :
    Makes c (advance s request rows) (Advanced request rows) := by
  unfold advance
  cases done : request.isDone rows with
  | true =>
    rw [if_pos rfl]
    have notAsked : [] = Advanced.asked request rows := (if_pos done).symm
    exact closeScanner_advanced notAsked s c (.inl rfl)
  | false =>
    rw [if_neg Bool.false_ne_true]
    have asked : [Call.rowAsked] = Advanced.asked request rows := (if_neg (by simp [done])).symm
    refine .bind_attempt (readRow_calls s c) ?_
    rintro (e | ⟨_ | row, s'⟩) _ c' - - rfl
    · exact closeScanner_advanced asked _ c' (.inr ⟨_, rfl⟩)
    · exact closeScanner_advanced asked s' c' (.inl rfl)
    · refine .bind_silent (.count _ _) (fun _ c₁ _ _ => ?_) nofun
      refine .bind_silent (.count _ _) (fun _ c₂ _ _ => ?_) nofun
      exact .pure ⟨done, rfl, s', rfl⟩

/-- What asking a cursor for a row comes to. A cursor that waits asks for a scanner first. -/
def Stepped : Cursor → Except Fault (Option ScannedRow × Cursor) → List Call → Prop
  | .waiting connection request, outcome, calls => ∃ lookUps,
      (∀ call ∈ lookUps, ∃ table, call = .lookedUp connection.number table) ∧
      ((∃ e, outcome = .error e) ∧
          calls = .scannerAsked connection.number request.table :: lookUps ∨
        ∃ more, Advanced request 0 outcome more ∧
          calls = .scannerAsked connection.number request.table :: lookUps ++
            .scannerOpened :: more)
  | .reading _ request rows, outcome, calls => Advanced request rows outcome calls
  | .finished, outcome, calls => outcome = .ok (none, .finished) ∧ calls = []

theorem next_calls (cursor : Cursor) (c : Client) : Makes c (next cursor) (Stepped cursor) := by
  cases cursor with
  | finished => exact .pure ⟨rfl, rfl⟩
  | reading s request rows => exact advance_calls s request rows c
  | waiting connection request =>
    refine .bind_attempt (openScanner_calls connection request c) ?_
    rintro (e | s) _ c' - - ⟨lookUps, areLookUps, rfl⟩
    · exact .fail ⟨lookUps, areLookUps, .inl ⟨⟨_, rfl⟩, by simp⟩⟩
    · refine (advance_calls s request 0 c').mono fun outcome more advanced => ?_
      exact ⟨lookUps, areLookUps, .inr ⟨more, advanced, by simp⟩⟩

theorem closeCursor_calls (cursor : Cursor) (c : Client) :
    Makes c (closeCursor cursor) fun _ calls =>
      calls = match cursor with
        | .reading .. => [.scannerClosed]
        | .waiting .. | .finished => [] := by
  cases cursor with
  | waiting connection request => exact .pure rfl
  | finished => exact .pure rfl
  | reading s request rows => exact closeScanner_calls s c

/-! The scanner of a cursor, from one call on the cursor to the next. -/

variable {limit : Option Int} {outcome : Except Fault (Option ScannedRow × Cursor)}
  {calls : List Call}

theorem allows_succ (more : request.isDone rows = false) : Allows request.limit (rows + 1) := by
  intro most limited
  have above : ¬ most ≤ rows := by
    simpa [ScanRequest.isDone, limited] using more
  omega

theorem Advanced.used (h : Advanced request rows outcome calls)
    (allowed : Allows request.limit rows) : (Cursor.after outcome).Used request.limit
      (.scannerOpened :: List.replicate rows .rowAsked ++ scannerCalls calls) := by
  have closed : ∀ calls, calls = asked request rows ++ [.scannerClosed] →
      Cursor.finished.Used request.limit
        (.scannerOpened :: List.replicate rows .rowAsked ++ scannerCalls calls) := by
    rintro calls rfl
    unfold asked
    cases done : request.isDone rows with
    | true => exact .inr ⟨rows, allowed, rfl⟩
    | false =>
      refine .inr ⟨rows + 1, allows_succ done, ?_⟩
      simp [Call.isOfScanner, List.replicate_succ']
  rcases outcome with e | ⟨_ | row, cursor⟩
  · exact closed calls h
  · obtain ⟨rfl, isClosed⟩ := h
    exact closed calls isClosed
  · obtain ⟨more, rfl, s, rfl⟩ := h
    refine ⟨rfl, allows_succ more, ?_⟩
    simp [Call.isOfScanner, List.replicate_succ']

theorem scannerCalls_lookUps {number : Nat}
    (lookUps : ∀ call ∈ calls, ∃ table, call = .lookedUp number table) :
    scannerCalls calls = [] := by
  refine List.filter_eq_nil_iff.mpr fun call member => ?_
  obtain ⟨table, rfl⟩ := lookUps call member
  exact Bool.false_ne_true

/-- One call for the next row, whatever the cursor has been used for before. -/
theorem Stepped.used {cursor : Cursor} {before : List Call} (h : Stepped cursor outcome calls)
    (used : cursor.Used limit before) :
    (Cursor.after outcome).Used limit (before ++ scannerCalls calls) := by
  cases cursor with
  | finished =>
    obtain ⟨rfl, rfl⟩ := h
    simpa [Cursor.after] using used
  | reading s request rows =>
    obtain ⟨rfl, allowed, rfl⟩ := used
    exact Advanced.used h allowed
  | waiting connection request =>
    obtain ⟨rfl, rfl⟩ := used
    obtain ⟨lookUps, areLookUps, ⟨⟨e, rfl⟩, rfl⟩ | ⟨more, advanced, rfl⟩⟩ := h
    · left
      simpa [Call.isOfScanner] using scannerCalls_lookUps areLookUps
    · have allowed : Allows request.limit 0 := fun most _ => by omega
      have none := scannerCalls_lookUps areLookUps
      have later := Advanced.used advanced allowed
      simpa [Call.isOfScanner, none] using later

/-- A cursor that gives no row is finished. -/
theorem Stepped.ended {cursor left : Cursor} (h : Stepped cursor (.ok (none, left)) calls) :
    left = .finished := by
  cases cursor with
  | finished => exact (Prod.mk.inj (Except.ok.inj h.1)).2
  | reading s request rows => exact h.1
  | waiting connection request =>
    obtain ⟨lookUps, -, ⟨⟨e, failed⟩, -⟩ | ⟨more, advanced, -⟩⟩ := h
    · cases failed
    · exact advanced.1

theorem closeCursor_used {cursor : Cursor} {before : List Call} (used : cursor.Used limit before)
    (c : Client) : Makes c (closeCursor cursor) fun _ calls =>
      Cursor.finished.Used limit (before ++ scannerCalls calls) := by
  refine (closeCursor_calls cursor c).mono ?_
  rintro _ _ rfl
  cases cursor with
  | finished => simpa using used
  | waiting connection request =>
    obtain ⟨rfl, rfl⟩ := used
    exact .inl rfl
  | reading s request rows =>
    obtain ⟨rfl, allowed, rfl⟩ := used
    exact .inr ⟨rows, allowed, rfl⟩

/-- What an expression is read as depends on the functions that the service knows. -/
theorem parseFilter_eq (expression : Option String) (c : Client) : parseFilter expression c =
    ((Filter.parse c.service.filters (expression.getD "").toList).mapError
      (.ofFilter (expression.getD "")), c) := by
  unfold parseFilter
  rw [Action.get_bind]
  cases Filter.parse c.service.filters (expression.getD "").toList <;> rfl

theorem parseFilter_reads (expression : Option String) : (parseFilter expression).Reads :=
  fun c => congrArg Prod.snd (parseFilter_eq expression c)

theorem openCursor_reads (request : ScanRequest) (expression : Option String) :
    (openCursor request expression).Reads :=
  .bind requireConnection_reads fun _ => .bind (parseFilter_reads expression) fun _ => .pure _

/-- Obtaining a cursor changes nothing, and the cursor waits on the connection of the client. -/
theorem openCursor_outcome (request : ScanRequest) (expression : Option String) (c : Client) :
    (∃ e, openCursor request expression c = (.error e, c)) ∨
      ∃ connection filter, c.service.connection = some connection ∧
        openCursor request expression c =
          (.ok (.waiting connection { request with filter }), c) := by
  have required := requireConnection_bind (fun connection => parseFilter expression >>=
    fun filter => pure (Cursor.waiting connection { request with filter })) c
  have same : openCursor request expression c = _ := required
  cases found : c.service.connection with
  | none =>
    rw [found] at same
    exact .inl ⟨_, same⟩
  | some connection =>
    rw [found] at same
    rcases parsed : parseFilter expression c with ⟨outcome, c'⟩
    have kept := parseFilter_reads expression c
    rw [parsed] at kept
    cases kept
    cases outcome with
    | error e => exact .inl ⟨e, same.trans (Action.bind_of_error parsed)⟩
    | ok filter => exact .inr ⟨connection, filter, rfl, same.trans (Action.bind_of_ok parsed)⟩

theorem logAll_silent (events : List Store.Event) : Silent (logAll events) := by
  induction events with
  | nil => exact .pure ()
  | cons e rest ih => exact .bind (.log e) fun _ => ih

theorem logAll_ok (events : List Store.Event) (c : Client) : (logAll events c).1 = .ok () := by
  induction events generalizing c with
  | nil => rfl
  | cons e rest ih => exact ih _

/-- Handing the rows of a cursor to a handler never fails by itself. -/
theorem handleRows_used (handler : RowHandler) (fuel : Nat) (handled : List ScannedRow)
    {cursor : Cursor} {before : List Call} (used : cursor.Used limit before) (c : Client) :
    Makes c (handleRows handler fuel handled cursor) fun outcome calls =>
      ∃ result left, outcome = .ok (result, left) ∧
        Cursor.Used limit left (before ++ scannerCalls calls) := by
  induction fuel generalizing handled cursor before c with
  | zero => exact .pure ⟨_, cursor, rfl, by simpa using used⟩
  | succ fuel ih =>
    refine .bind_attempt (next_calls cursor c) ?_
    rintro outcome calls c' - - stepped
    have used' := stepped.used used
    rcases outcome with e | ⟨_ | row, left⟩
    · exact .pure ⟨_, .finished, rfl, by simpa [Cursor.after] using used'⟩
    · exact .pure ⟨_, left, rfl, by simpa [Cursor.after] using used'⟩
    · dsimp only
      cases handler handled.length row with
      | error e =>
        refine .bind_silent (.meet _) (fun _ c₁ _ _ => ?_) nofun
        refine .bind_silent (.count _ _) (fun _ c₂ _ _ => ?_) nofun
        exact .pure ⟨_, left, rfl, by simpa [Cursor.after] using used'⟩
      | ok events =>
        refine .bind_silent (logAll_silent events) (fun _ c₁ _ _ => ?_) ?_
        · refine (ih _ used' c₁).mono ?_
          rintro _ more ⟨result, last, rfl, later⟩
          refine ⟨result, last, rfl, ?_⟩
          rwa [scannerCalls_append, ← List.append_assoc]
        · intro e failed
          rw [logAll_ok] at failed
          cases failed

theorem scan_used (request : ScanRequest) (expression : Option String) (handler : RowHandler)
    (c : Client) : Makes c (scan request expression handler) fun _ calls =>
      Cursor.finished.Used request.limit (scannerCalls calls) := by
  unfold scan
  rcases openCursor_outcome request expression c with ⟨e, failed⟩ | ⟨connection, filter, -, opened⟩
  · exact .congr (Action.bind_of_error failed) (.fail (.inl rfl))
  · refine .congr (Action.bind_of_ok opened) ?_
    refine .bind_silent .get (fun _ c' _ _ => ?_) nofun
    have unused : Cursor.Used request.limit (.waiting connection { request with filter }) [] :=
      ⟨rfl, rfl⟩
    refine .bind (handleRows_used handler _ [] unused c') ?_ ?_
    · rintro _ calls c₁ - - ⟨result, left, same, used⟩
      cases same
      refine .bind_silent (.count _ _) (fun _ c₂ _ _ => ?_) nofun
      refine .bind (closeCursor_used used c₂) ?_ ?_
      · rintro _ more c₃ - - closed
        refine Silent.makes ?_ fun _ => by simpa using closed
        refine .bind (.count _ _) fun _ => ?_
        cases result with
        | ok rows => exact .bind (.update fun _ => rfl) fun _ => .pure rows
        | error e => exact .fail e
      · rintro e more - closed
        simpa using closed
    · rintro e calls - ⟨result, left, same, -⟩
      cases same

/-- A cursor that has been obtained for a request and is asked for rows and closed, in any order;
with the number of times it was asked, and with the calls that all this has made. The client may
have become any other between two of these. -/
inductive CursorRun (request : ScanRequest) (expression : Option String) :
    Nat → List Call → Cursor → Prop
  | obtained {c c' : Client} {cursor : Cursor} {made : List Made}
      (obtained : openCursor request expression c = (.ok cursor, c'))
      (noted : c'.store.calls = c.store.calls ++ made) :
      CursorRun request expression 0 (made.map (·.call)) cursor
  | next {asked : Nat} {calls : List Call} {cursor : Cursor} {c c' : Client}
      {outcome : Except Fault (Option ScannedRow × Cursor)} {made : List Made}
      (before : CursorRun request expression asked calls cursor)
      (stepped : next cursor c = (outcome, c'))
      (noted : c'.store.calls = c.store.calls ++ made) :
      CursorRun request expression (asked + 1) (calls ++ made.map (·.call)) (Cursor.after outcome)
  | closed {asked : Nat} {calls : List Call} {cursor : Cursor} {c c' : Client}
      {outcome : Except Fault Unit} {made : List Made}
      (before : CursorRun request expression asked calls cursor)
      (closed : closeCursor cursor c = (outcome, c'))
      (noted : c'.store.calls = c.store.calls ++ made) :
      CursorRun request expression asked (calls ++ made.map (·.call)) .finished

namespace CursorRun

variable {expression : Option String} {asked : Nat} {cursor : Cursor}

theorem used (run : CursorRun request expression asked calls cursor) :
    cursor.Used request.limit (scannerCalls calls) := by
  induction run with
  | @obtained c c' cursor made obtained noted =>
    rcases openCursor_outcome request expression c with ⟨e, failed⟩ | ⟨connection, filter, -, waits⟩
    · cases obtained.symm.trans failed
    · cases obtained.symm.trans waits
      rw [List.self_eq_append_right.mp noted]
      exact ⟨rfl, rfl⟩
  | next before stepped noted ih =>
    rw [scannerCalls_append]
    exact ((next_calls _ _).of_noted stepped noted).used ih
  | closed before closed noted ih =>
    rw [scannerCalls_append]
    exact (closeCursor_used ih _).of_noted closed noted

/-- Before it is asked for a row, a cursor makes no calls at all. -/
theorem untouched (run : CursorRun request expression asked calls cursor) (never : asked = 0) :
    calls = [] ∧ ∀ s request rows, cursor ≠ .reading s request rows := by
  induction run with
  | @obtained c c' cursor made obtained noted =>
    rcases openCursor_outcome request expression c with ⟨e, failed⟩ | ⟨connection, filter, -, waits⟩
    · cases obtained.symm.trans failed
    · cases obtained.symm.trans waits
      rw [List.self_eq_append_right.mp noted]
      exact ⟨rfl, nofun⟩
  | next before stepped noted ih => cases never
  | @closed asked calls cursor c c' outcome made before closed noted ih =>
    obtain ⟨rfl, unopened⟩ := ih never
    have none := (closeCursor_calls cursor c).of_noted closed noted
    cases cursor with
    | reading s request rows => exact absurd rfl (unopened s request rows)
    | waiting connection request => exact ⟨none, nofun⟩
    | finished => exact ⟨none, nofun⟩

end CursorRun

/-- A cursor opens nothing before it is asked for a row, and at most one scanner; it never asks for
more rows than its limit allows. By the time it is finished, which it is when it fails, gives no row
or is closed, its scanner has been closed, once and last of all. So has the scanner of a scan when
the scan ends, however that may be. -/
theorem scanner_released (request : ScanRequest) (expression : Option String) :
    (∀ asked calls cursor, CursorRun request expression asked calls cursor →
      (asked = 0 → calls = []) ∧
      (cursor = .finished → Released request.limit (scannerCalls calls)) ∧
      (cursor ≠ .finished → scannerCalls calls = [] ∨ ∃ rows, Allows request.limit rows ∧
        scannerCalls calls = .scannerOpened :: List.replicate rows .rowAsked) ∧
      ∀ c c' left, next cursor c = (.ok (none, left), c') → left = .finished) ∧
    ∀ handler c, ∃ made,
      (scan request expression handler c).2.store.calls = c.store.calls ++ made ∧
        Released request.limit (scannerCalls (made.map (·.call))) := by
  constructor
  · intro asked calls cursor run
    have used := run.used
    refine ⟨fun never => (run.untouched never).1, ?_, ?_, ?_⟩
    · rintro rfl
      exact used
    · intro unfinished
      cases cursor with
      | waiting connection request => exact .inl used.2
      | reading s request rows => exact .inr ⟨rows, used.2⟩
      | finished => exact absurd rfl unfinished
    · intro c c' left stepped
      obtain ⟨calls, -, ended⟩ := next_calls cursor c
      rw [stepped] at ended
      exact ended.ended
  · intro handler c
    obtain ⟨calls, after, released⟩ := scan_used request expression handler c
    refine ⟨_, after.noted, ?_⟩
    rw [List.map_map]
    exact (List.map_id calls).symm ▸ released

/-- A cursor with the limit 1 over two rows, whose scanner cannot be closed without a fault. -/
theorem scanner_released_at_limit :
    let request : ScanRequest := { table := "t", limit := some 1 }
    let calls := [.scannerAsked 1 "t", .scannerOpened, .rowAsked, .scannerClosed]
    CursorRun request none 2 calls .finished ∧ Released request.limit (scannerCalls calls) := by
  intro request calls
  let service : Service :=
    { name := "s", settings := ∅, backend := .direct, connection := some ⟨1, .direct⟩ }
  let store : Store := { rows := [⟨some [0x72], []⟩, ⟨some [0x73], []⟩] }
  let fault : Planned := ⟨0, .collaborator "OSError" "gone"⟩
  let c : Client := ⟨service, store.planFault .scannerClose (some fault), {}⟩
  let waiting : Cursor := .waiting ⟨1, .direct⟩ request
  let reading := Cursor.after (next waiting c).1
  have obtained : CursorRun request none 0 [] waiting := @CursorRun.obtained _ _ c c _ [] rfl rfl
  have opened : CursorRun request none 1 [.scannerAsked 1 "t", .scannerOpened, .rowAsked] reading :=
    @CursorRun.next _ _ _ _ _ c _ _ [⟨.scannerAsked 1 "t", some 1⟩, ⟨.scannerOpened, some 1⟩,
      ⟨.rowAsked, some 1⟩] obtained rfl rfl
  have run : CursorRun request none 2 calls .finished :=
    @CursorRun.next _ _ _ _ _ c _ _ [⟨.scannerClosed, some 1⟩] opened rfl rfl
  obtain ⟨-, released, -⟩ := (scanner_released request none).1 2 calls .finished run
  exact ⟨run, released rfl⟩

end Client
end WideColumn
