import WideColumn.Proofs.Service.Cursor
import WideColumn.Proofs.Service.Surfacing

/-! What the faults of a scan lead to. A cursor that fails or gives no row is finished, so that a
scan still has something to close only after its handler has failed; a fault of closing it then
comes out instead of the other, before the scan has been counted. -/
namespace WideColumn

open Store (Incident Point)

/-- The rows that a cursor has yet to read, where a store holds some number of rows. -/
def Cursor.pending (stored : Nat) : Cursor → Nat
  | .waiting .. => stored
  | .reading s .. => s.remaining.length
  | .finished => 0

namespace Client

variable {α : Type} {a : Action Client α} {c c' : Client} {met : List Incident}

/-! A cursor reads one row after the other. -/

theorem makeScanner_remaining {connection : Connection} {request : ScanRequest} {s : Scanner}
    (made : makeScanner connection request c = (.ok s, c')) :
    s.remaining.length = c'.store.rows.length := by
  unfold makeScanner at made
  cases backend : connection.backend with
  | direct =>
    rw [backend] at made
    obtain ⟨order, c₁, -, made⟩ := Action.bind_eq_ok_iff.mp made
    obtain ⟨-, c₂, -, made⟩ := Action.bind_eq_ok_iff.mp made
    obtain ⟨-, c₃, -, made⟩ := Action.bind_eq_ok_iff.mp made
    cases made
    exact List.length_map _
  | gateway =>
    rw [backend] at made
    obtain ⟨-, c₀, -, made⟩ := Action.bind_eq_ok_iff.mp made
    obtain ⟨order, c₁, -, made⟩ := Action.bind_eq_ok_iff.mp made
    obtain ⟨-, c₂, -, made⟩ := Action.bind_eq_ok_iff.mp made
    obtain ⟨-, c₃, -, made⟩ := Action.bind_eq_ok_iff.mp made
    cases made
    exact List.length_map _

theorem openScanner_remaining {connection : Connection} {request : ScanRequest} {s : Scanner}
    (opened : openScanner connection request c = (.ok s, c')) :
    s.remaining.length = c.store.rows.length := by
  obtain ⟨met, left, -⟩ := openScanner_fails connection request c
  rw [opened] at left
  obtain ⟨-, c₁, -, opened⟩ := Action.bind_eq_ok_iff.mp opened
  obtain ⟨s', c₂, made, opened⟩ := Action.bind_eq_ok_iff.mp opened
  obtain ⟨⟨⟩, c₃, noted, last⟩ := Action.bind_eq_ok_iff.mp opened
  cases noted
  cases last
  rw [makeScanner_remaining made]
  exact congrArg List.length left.rows

theorem readGateway_remaining {rows : List (Except Mismatch ScannedRow)} {index : Nat}
    {row : ScannedRow} {s : Scanner}
    (read : readGateway rows index c = (.ok (some row, s), c')) :
    s.remaining.length < rows.length := by
  induction rows generalizing index c with
  | nil =>
    obtain ⟨checked, c₁, -, read⟩ := Action.bind_eq_ok_iff.mp read
    cases checked with
    | ok =>
      obtain ⟨-, c₂, -, read⟩ := Action.bind_eq_ok_iff.mp read
      cases read
    | error e =>
      obtain ⟨-, c₂, -, read⟩ := Action.bind_eq_ok_iff.mp read
      cases read
  | cons first rest ih =>
    obtain ⟨reached, c₁, -, read⟩ := Action.bind_eq_ok_iff.mp read
    cases reached with
    | ok first =>
      dsimp only at read
      split at read
      · exact Nat.lt_succ_of_lt (ih read)
      · cases read
        exact Nat.lt_succ_self _
    | error e =>
      obtain ⟨-, c₂, -, read⟩ := Action.bind_eq_ok_iff.mp read
      cases read

theorem readRow_remaining {s s' : Scanner} {row : ScannedRow}
    (read : readRow s c = (.ok (some row, s'), c')) :
    s'.remaining.length < s.remaining.length := by
  obtain ⟨-, c₁, -, read⟩ := Action.bind_eq_ok_iff.mp read
  cases backend : s.backend with
  | gateway =>
    rw [backend] at read
    exact readGateway_remaining read
  | direct =>
    rw [backend] at read
    cases remaining : s.remaining with
    | nil =>
      rw [remaining] at read
      obtain ⟨-, c₂, -, read⟩ := Action.bind_eq_ok_iff.mp read
      cases read
    | cons first rest =>
      rw [remaining] at read
      obtain ⟨first, c₂, -, read⟩ := Action.bind_eq_ok_iff.mp read
      cases read
      exact Nat.lt_succ_self _

theorem advance_pending {s : Scanner} {request : ScanRequest} {rows stored : Nat}
    {row : ScannedRow} {left : Cursor}
    (advanced : advance s request rows c = (.ok (some row, left), c')) :
    left.pending stored < s.remaining.length := by
  unfold advance at advanced
  split at advanced
  · obtain ⟨-, c₁, -, advanced⟩ := Action.bind_eq_ok_iff.mp advanced
    cases advanced
  · obtain ⟨read, c₁, attempted, advanced⟩ := Action.bind_eq_ok_iff.mp advanced
    rcases ran : readRow s c with ⟨outcome, c₂⟩
    cases (attempt_of_eq ran).symm.trans attempted
    rcases read with e | ⟨_ | first, s'⟩
    · obtain ⟨-, c₃, -, advanced⟩ := Action.bind_eq_ok_iff.mp advanced
      cases advanced
    · obtain ⟨-, c₃, -, advanced⟩ := Action.bind_eq_ok_iff.mp advanced
      cases advanced
    · obtain ⟨-, c₃, -, advanced⟩ := Action.bind_eq_ok_iff.mp advanced
      obtain ⟨-, c₄, -, advanced⟩ := Action.bind_eq_ok_iff.mp advanced
      cases advanced
      exact readRow_remaining ran

/-- A cursor that gives a row has fewer to read afterwards. -/
theorem next_pending {cursor left : Cursor} {row : ScannedRow} (stored : Nat)
    (stepped : next cursor c = (.ok (some row, left), c')) :
    left.pending stored < cursor.pending c.store.rows.length := by
  cases cursor with
  | finished => cases stepped
  | reading s request rows => exact advance_pending stepped
  | waiting connection request =>
    obtain ⟨opened, c₁, attempted, advanced⟩ := Action.bind_eq_ok_iff.mp stepped
    rcases ran : openScanner connection request c with ⟨scanner, c₂⟩
    cases (attempt_of_eq ran).symm.trans attempted
    cases opened with
    | error e => cases advanced
    | ok s =>
      show left.pending stored < c.store.rows.length
      rw [← openScanner_remaining ran]
      exact advance_pending advanced

/-! What a cursor comes to that meets faults. -/

/-- A cursor meets no fault, or one of what it asks for; or it fails with one of closing its
scanner, which may come after one of a read. -/
def Interrupted (outcome : Except Fault α) (met : List Incident) : Prop :=
  Wrapped outcome met ∨ ∃ before e, (∀ i ∈ before, i.origin = .point .read) ∧
    met = before ++ [⟨.point .scannerClose, e⟩] ∧ outcome = .error e

variable {outcome : Except Fault α}

theorem Interrupted.surfaces (h : Interrupted outcome met) (c : Client) :
    Surfaces c outcome met := by
  rcases h with wrapped | ⟨before, e, reads, rfl, rfl⟩
  · exact wrapped.surfaces c
  · refine .bare (.inl rfl) fun i member => ?_
    have asked := @not_isBare_of_asked .read rfl c i.fault
    rwa [← reads i member] at asked

theorem Interrupted.of_ok {x : α} (h : Interrupted (.ok x) met) : met = [] := by
  rcases h with wrapped | ⟨_, _, _, _, failed⟩
  · exact wrapped.of_ok
  · cases failed

/-- Faults of a cursor are faults of the store. -/
theorem Interrupted.at_points (h : Interrupted outcome met) :
    ∀ i ∈ met, ∃ point, i.origin = .point point := by
  rcases h with (rfl | ⟨point, e, e', -, rfl, -⟩) | ⟨before, e, reads, rfl, -⟩
  · exact List.forall_mem_nil _
  · exact List.forall_mem_singleton.mpr ⟨point, rfl⟩
  · refine List.forall_mem_append.mpr ⟨fun i member => ⟨.read, reads i member⟩, ?_⟩
    exact List.forall_mem_singleton.mpr ⟨.scannerClose, rfl⟩

/-- A scanner is closed, after a fault of a read perhaps, and then what that led to goes on. -/
theorem closeScanner_interrupted (s : Scanner) (c : Client)
    (reads : ∀ i ∈ met, i.origin = .point .read) (untroubled : Untroubled a)
    (goesOn : ∀ c', Wrapped (a c').1 met) :
    Action.Leaves Met c (closeScanner s >>= fun _ => a) fun ran more =>
      Interrupted ran.1 (met ++ more) := by
  refine .bind met_isTrace (closeScanner_passed s c) ?_ ?_
  · rintro _ _ c' - (⟨rfl, -⟩ | ⟨_, _, failed⟩)
    · refine (untroubled.meets_none c').mono ?_
      rintro _ - rfl
      left
      rw [List.append_nil, List.append_nil]
      exact goesOn c'
    · cases failed
  · rintro e _ c' - (⟨_, failed⟩ | ⟨e', rfl, same⟩)
    · cases failed
    · cases same
      exact .inr ⟨met, e, reads, rfl, rfl⟩

theorem advance_interrupted (s : Scanner) (request : ScanRequest) (rows : Nat) (c : Client) :
    Action.Leaves Met c (advance s request rows) fun ran => Interrupted ran.1 := by
  unfold advance
  split
  · exact closeScanner_interrupted s c (List.forall_mem_nil _) (.pure _) fun _ => .inl rfl
  · refine .bind_attempt met_isTrace (readRow_fails s c) ?_
    rintro (e | ⟨_ | row, s'⟩) met c' - (rfl | ⟨point, e', rfl, rfl, failed⟩)
    · refine closeScanner_interrupted _ c' (List.forall_mem_nil _) (.fail _) fun _ => .inl rfl
    · cases failed
      refine closeScanner_interrupted _ c' (List.forall_mem_singleton.mpr rfl) (.fail _) fun _ => ?_
      exact .inr ⟨.read, e, _, rfl, rfl, storeFault_becomes _ e, rfl⟩
    · exact closeScanner_interrupted s' c' (List.forall_mem_nil _) (.pure _) fun _ => .inl rfl
    · cases failed
    · have counted : Untroubled (count (.rowsRead request.table) 1 >>= fun _ =>
          count (.cellsRead request.table) row.cells.length >>= fun _ =>
            (pure (some row, Cursor.reading s' request (rows + 1)) :
              Action Client (Option ScannedRow × Cursor))) :=
        .bind (.count _ rfl) fun _ => .bind (.count _ rfl) fun _ => .pure _
      exact (Wraps.of_untroubled counted c').mono fun _ _ => .inl
    · cases failed

theorem next_interrupted (cursor : Cursor) (c : Client) :
    Action.Leaves Met c (next cursor) fun ran => Interrupted ran.1 := by
  cases cursor with
  | finished => exact ⟨[], .refl c, .inl (.inl rfl)⟩
  | reading s request rows => exact advance_interrupted s request rows c
  | waiting connection request =>
    refine .bind_attempt met_isTrace (openScanner_fails connection request c) ?_
    rintro (e | s) met c' - (rfl | ⟨point, e', asked, rfl, failed⟩)
    · exact ⟨[], .refl c', .inl (.inl rfl)⟩
    · cases failed
      refine ⟨[], .refl c', .inl (.inr ?_)⟩
      exact ⟨point, e, _, asked, rfl, storeFault_becomes _ e, rfl⟩
    · exact advance_interrupted s request 0 c'
    · cases failed

/-- Closing a cursor that has something to close. -/
theorem closeCursor_passed (cursor : Cursor) (c : Client) :
    Action.Leaves Met c (closeCursor cursor) (Passed .scannerClose) := by
  cases cursor with
  | waiting connection request => exact ⟨[], .refl c, .inl ⟨rfl, rfl⟩⟩
  | finished => exact ⟨[], .refl c, .inl ⟨rfl, rfl⟩⟩
  | reading s request rows => exact closeScanner_passed s c

/-! Scans. -/

/-- What handing the rows of a cursor to a handler comes to: the rows, or a fault of the cursor,
which is finished then; or one of the handler, which leaves it. -/
inductive Handled (handler : RowHandler) :
    Except Fault (List ScannedRow) → Cursor → List Incident → Prop
  | rows {rows : List ScannedRow} : Handled handler (.ok rows) .finished []
  | failed {e : Fault} {met : List Incident}
      (interrupted : Interrupted (.error e : Except Fault Unit) met) :
      Handled handler (.error e) .finished met
  | aborted {index : Nat} {row : ScannedRow} {e : Fault} {left : Cursor}
      (refused : handler index row = .error e) :
      Handled handler (.error (.handlerAborted row.key e)) left [⟨.handler row.key, e⟩]

theorem Interrupted.of_error {β : Type} {e : Fault}
    (h : Interrupted (.error e : Except Fault α) met) :
    Interrupted (.error e : Except Fault β) met := by
  rcases h with (rfl | ⟨point, e', e'', asked, occurred, becomes, failed⟩) |
    ⟨before, e', reads, occurred, failed⟩
  · exact .inl (.inl rfl)
  · cases failed
    exact .inl (.inr ⟨point, e', e, asked, occurred, becomes, rfl⟩)
  · cases failed
    exact .inr ⟨before, e, reads, occurred, rfl⟩

theorem logAll_met (events : List Store.Event) (c : Client) :
    Action.Leaves Met c (logAll events) fun ran met => ran.1 = .ok () ∧ met = [] := by
  induction events generalizing c with
  | nil => exact ⟨[], .refl c, rfl, rfl⟩
  | cons e rest ih =>
    obtain ⟨_, left, logged, rfl⟩ := ih (log e c).2
    have first : Met [] c (log e c).2 := ⟨(List.append_nil _).symm, id, nofun, rfl, fun _ _ => rfl⟩
    exact ⟨[], first.trans left, logged, rfl⟩

/-- The rows of a cursor are handed over as long as there are any: a step for each does. -/
theorem handleRows_handled (handler : RowHandler) {fuel : Nat} (handled : List ScannedRow)
    {cursor : Cursor} (enough : cursor.pending c.store.rows.length < fuel) :
    Action.Leaves Met c (handleRows handler fuel handled cursor) fun ran met =>
      ∃ result left, ran.1 = .ok (result, left) ∧ Handled handler result left met := by
  induction fuel generalizing handled cursor c with
  | zero => exact absurd enough (Nat.not_lt_zero _)
  | succ fuel ih =>
    have first : Action.Leaves Met c (next cursor) fun ran met =>
        ran = next cursor c ∧ Interrupted ran.1 met :=
      (next_interrupted cursor c).mono fun _ _ interrupted => ⟨rfl, interrupted⟩
    refine .bind_attempt met_isTrace first ?_
    rintro (e | ⟨_ | row, left⟩) met c' before ⟨ran, interrupted⟩
    · refine ⟨[], .refl c', _, .finished, rfl, ?_⟩
      rw [List.append_nil]
      exact .failed interrupted.of_error
    · obtain rfl := interrupted.of_ok
      obtain ⟨calls, -, stepped⟩ := next_calls cursor c
      rw [← ran] at stepped
      obtain rfl := stepped.ended
      exact ⟨[], .refl c', _, .finished, rfl, .rows⟩
    · obtain rfl := interrupted.of_ok
      dsimp only
      cases refused : handler handled.length row with
      | error e =>
        have met : Action.Leaves Met c' (meet ⟨.handler row.key, e⟩) fun ran met =>
            ran.1 = .ok () ∧ met = [⟨.handler row.key, e⟩] :=
          ⟨_, .handling row.key e c', rfl, rfl⟩
        refine .bind met_isTrace met ?_ (fun _ _ _ _ impossible => nomatch impossible.1)
        rintro ⟨⟩ _ c'' - ⟨-, rfl⟩
        exact ⟨[], .count 1 rfl c'', _, left, rfl, .aborted refused⟩
      | ok events =>
        refine .bind met_isTrace (logAll_met events c') ?_ (fun _ _ _ _ h => nomatch h.1)
        rintro ⟨⟩ _ c'' logged ⟨-, rfl⟩
        refine ih (handled ++ [row]) ?_
        have fewer := next_pending c''.store.rows.length ran.symm
        rw [logged.rows, before.rows] at fewer ⊢
        omega

/-- What a scan comes to, and whether it is counted as a success or not: unless closing what its
handler has left fails as well, it is. -/
inductive Ended (handler : RowHandler) :
    Except Fault (List ScannedRow) → List Incident → Option Bool → Prop
  | counted {result : Except Fault (List ScannedRow)} {left : Cursor} {met : List Incident}
      (handled : Handled handler result left met) :
      Ended handler result met (some result.toBool)
  | uncounted {index : Nat} {row : ScannedRow} {e e' : Fault}
      (refused : handler index row = .error e) :
      Ended handler (.error e') [⟨.handler row.key, e⟩, ⟨.point .scannerClose, e'⟩] none

/-- What a client is after one scan of a table, with how that has been counted. -/
structure Scanned (table : String) (status : Option Bool) (met : List Incident) (c c' : Client) :
    Prop where
  noted : c'.store.incidents = c.store.incidents ++ met
  raised : c.store.IsForeign → ∀ point e, ⟨.point point, e⟩ ∈ met → e.isService = false
  timed : ∀ t, c'.metrics.count (.scanDuration t) =
    c.metrics.count (.scanDuration t) + if t = table then 1 else 0
  scans : ∀ t success, c'.metrics.count (.scans t success) =
    c.metrics.count (.scans t success) + if t = table ∧ some success = status then 1 else 0

/-- A scan that has been timed, and is not counted. -/
theorem Met.scanned {table : String} {more : List Incident} {c₁ c₂ : Client}
    (left : Met met c c₁)
    (closing : Met more { c₁ with metrics := c₁.metrics.add (.scanDuration table) } c₂) :
    Scanned table none (met ++ more) c c₂ where
  noted := by
    rw [closing.noted, ← List.append_assoc, ← left.noted]
  raised foreign point e member := by
    rcases List.mem_append.mp member with before | later
    · exact left.raised foreign point e before
    · exact closing.raised (left.foreign foreign) point e later
  timed t := by
    rw [closing.scans _ rfl, Metrics.count_add, left.scans _ rfl, left.scans _ rfl]
    by_cases same : t = table
    · rw [same, if_pos rfl, if_pos rfl]
    · rw [if_neg fun equal => same (Series.scanDuration.inj equal).symm, if_neg same]
      rfl
  scans t success := by
    rw [closing.scans _ rfl, Metrics.count_add, if_neg nofun, left.scans _ rfl,
      if_neg fun none => nomatch none.2]
    rfl

/-- A scan is counted after it has been timed. -/
theorem Scanned.count {table : String} (h : Scanned table none met c c') (success : Bool) :
    Scanned table (some success) met c
      { c' with metrics := c'.metrics.add (.scans table success) } where
  noted := h.noted
  raised := h.raised
  timed t := by
    rw [Metrics.count_add, if_neg nofun]
    exact h.timed t
  scans t success' := by
    have unlike : ∀ t (success' : Bool), ¬ (t = table ∧ some success' = none) := fun _ _ => nofun
    rw [Metrics.count_add, h.scans, h.scans, if_neg (unlike _ _), if_neg (unlike _ _)]
    by_cases same : t = table ∧ success' = success
    · obtain ⟨rfl, rfl⟩ := same
      rw [if_pos rfl, if_pos ⟨rfl, rfl⟩]
    · rw [if_neg fun equal => same (Series.scans.inj equal |>.imp Eq.symm Eq.symm),
        if_neg fun equal => same ⟨equal.1, Option.some.inj equal.2⟩]

theorem scan_ended {request : ScanRequest} {expression : Option String} {cursor : Cursor}
    (opened : openCursor request expression c = (.ok cursor, c)) (handler : RowHandler) :
    ∃ met status, Scanned request.table status met c (scan request expression handler c).2 ∧
      Ended handler (scan request expression handler c).1 met status := by
  have enough : cursor.pending c.store.rows.length < c.store.rows.length + 1 := by
    rcases openCursor_outcome request expression c with ⟨e, failed⟩ | ⟨connection, filter, -, waits⟩
    · cases opened.symm.trans failed
    · cases opened.symm.trans waits
      exact Nat.lt_succ_self _
  unfold scan
  rw [Action.bind_of_ok opened, Action.get_bind]
  obtain ⟨met, left, result, last, same, handled⟩ := handleRows_handled handler [] enough
  rcases ran : handleRows handler (c.store.rows.length + 1) [] cursor c with ⟨outcome, c₁⟩
  rw [ran] at left same
  obtain rfl := same
  rw [Action.bind_of_ok ran]
  dsimp only
  let c₂ : Client := { c₁ with metrics := c₁.metrics.add (.scanDuration request.table) }
  rw [Action.bind_of_ok (show count (.scanDuration request.table) 1 c₁ = (.ok (), c₂) from rfl)]
  obtain ⟨more, closing, passed⟩ := closeCursor_passed last c₂
  rcases closed : closeCursor last c₂ with ⟨outcome, c₃⟩
  rw [closed] at closing passed
  have scanned := left.scanned closing
  rcases passed with ⟨rfl, rfl⟩ | ⟨e, rfl, rfl⟩
  · rw [Action.bind_of_ok closed]
    rw [List.append_nil] at scanned
    have counted := scanned.count result.toBool
    refine ⟨met, some result.toBool, ?_⟩
    cases result with
    | ok rows =>
      exact ⟨⟨counted.noted, counted.raised, counted.timed, counted.scans⟩, .counted handled⟩
    | error e => exact ⟨counted, .counted handled⟩
  · rw [Action.bind_of_error closed]
    refine ⟨_, none, scanned, ?_⟩
    cases handled with
    | rows => cases closed
    | failed => cases closed
    | aborted refused => exact .uncounted refused

end Client
end WideColumn
