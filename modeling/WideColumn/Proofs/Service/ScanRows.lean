import WideColumn.Proofs.Record.Names
import WideColumn.Proofs.Service.ScanCounts
import WideColumn.Proofs.Service.ScannerRows

/-! Which rows a scan hands over, and how it ends. The end of the rows, a fault, the limit and the
handler compete for that; before any of them has its way, every row that is read is handed over at
once, and nothing else is. -/
namespace WideColumn

open Store (Event)

namespace ScanRequest

/-- As many of a number of rows as the limit allows. -/
def bound (request : ScanRequest) (rows : Nat) : Nat :=
  request.limit.elim rows fun limit => min rows limit.toNat

theorem bound_le (request : ScanRequest) (rows : Nat) : request.bound rows ≤ rows := by
  unfold bound
  cases request.limit with
  | none => exact Nat.le_refl rows
  | some limit => exact Nat.min_le_left _ _

theorem isDone_iff {request : ScanRequest} {rows : Nat} :
    request.isDone rows = false ↔ ∀ limit ∈ request.limit, (rows : Int) < limit := by
  unfold isDone
  cases request.limit with
  | none => simp
  | some limit => simp

end ScanRequest

namespace Client

/-! What a handler makes of rows. -/

/-- The events of handling rows one after the other. A row that is refused leaves none. -/
def handledEvents (handler : RowHandler) (rows : List ScannedRow) : List Event :=
  (rows.mapIdx fun index row => (handler index row).toOption.getD []).flatten

theorem handledEvents_concat (handler : RowHandler) (rows : List ScannedRow) (row : ScannedRow) :
    handledEvents handler (rows ++ [row]) =
      handledEvents handler rows ++ (handler rows.length row).toOption.getD [] := by
  rw [handledEvents, List.mapIdx_concat, List.flatten_append, List.flatten_singleton]
  rfl

/-- No row of a list is refused when the rows come one after the other. -/
def Takes (handler : RowHandler) (rows : List ScannedRow) : Prop :=
  ∀ index row, rows[index]? = some row → ∃ events, handler index row = .ok events

theorem Takes.concat {handler : RowHandler} {rows : List ScannedRow} {row : ScannedRow}
    {events : List Event} (h : Takes handler rows)
    (taken : handler rows.length row = .ok events) : Takes handler (rows ++ [row]) := by
  intro index other found
  rcases Nat.lt_trichotomy index rows.length with inside | rfl | outside
  · rw [List.getElem?_append_left inside] at found
    exact h index other found
  · rw [List.getElem?_concat_length] at found
    cases found
    exact ⟨events, taken⟩
  · rw [List.getElem?_eq_none] at found
    · cases found
    · rw [List.length_append, List.length_singleton]
      exact outside

variable {c₀ c c' : Client} {handler : RowHandler} {table : String} {rows : List ScannedRow}
  {closing more : List Event}

/-- What a client is after rows have been handed over: what handling them leaves has been logged
in their order, then perhaps the end of the scanner; and the rows and their cells count. -/
structure Handed (handler : RowHandler) (table : String) (rows : List ScannedRow)
    (closing : List Event) (c c' : Client) : Prop where
  log : c'.store.log = c.store.log ++ handledEvents handler rows ++ closing
  rowsRead : c'.metrics.count (.rowsRead table) = c.metrics.count (.rowsRead table) + rows.length
  cellsRead : c'.metrics.count (.cellsRead table) =
    c.metrics.count (.cellsRead table) + (rows.flatMap (·.cells)).length

namespace Handed

theorem refl (handler : RowHandler) (table : String) (c : Client) :
    Handed handler table [] [] c c :=
  ⟨by simp [handledEvents], rfl, rfl⟩

theorem logged (h : Handed handler table rows closing c₀ c) (later : Logged more c c') :
    Handed handler table rows (closing ++ more) c₀ c' where
  log := by rw [later.log, h.log, List.append_assoc]
  rowsRead := by rw [later.metrics, h.rowsRead]
  cellsRead := by rw [later.metrics, h.cellsRead]

theorem count {s : Series} (h : Handed handler table rows closing c₀ c)
    (apart : s ≠ .rowsRead table ∧ s ≠ .cellsRead table) (n : Nat) :
    Handed handler table rows closing c₀ { c with metrics := c.metrics.add s n } where
  log := h.log
  rowsRead := by rw [Metrics.count_add, if_neg apart.1, h.rowsRead]
  cellsRead := by rw [Metrics.count_add, if_neg apart.2, h.cellsRead]

/-- One more row, which has been counted and whose events have been logged. -/
theorem concat {row : ScannedRow} (h : Handed handler table rows [] c₀ c)
    (log : c'.store.log = c.store.log ++ (handler rows.length row).toOption.getD [])
    (metrics : c'.metrics =
      (c.metrics.add (.rowsRead table)).add (.cellsRead table) row.cells.length) :
    Handed handler table (rows ++ [row]) [] c₀ c' where
  log := by
    rw [log, h.log, handledEvents_concat, List.append_nil, List.append_nil, List.append_assoc]
  rowsRead := by
    rw [metrics, Metrics.count_add, if_neg nofun, Metrics.count_add_self, h.rowsRead,
      List.length_append]
    rfl
  cellsRead := by
    rw [metrics, Metrics.count_add_self, Metrics.count_add, if_neg nofun, h.cellsRead,
      List.flatMap_append, List.length_append, List.flatMap_singleton, Nat.add_assoc]

end Handed

/-! One row after the other. -/

variable {s : Scanner} {request : ScanRequest} {n : Nat}

theorem closeCursor_ok {cursor : Cursor} (closes : cursor = .finished ∨ Closes c) :
    ∃ events c', closeCursor cursor c = (.ok (), c') ∧ Logged events c c' ∧
      ∀ e ∈ events, IsClosing e := by
  cases cursor with
  | waiting connection request => exact ⟨[], c, rfl, .refl c, List.forall_mem_nil _⟩
  | finished => exact ⟨[], c, rfl, .refl c, List.forall_mem_nil _⟩
  | reading s request rows => exact closeScanner_ok s (closes.resolve_left nofun)

/-- At its limit a scanner is closed without being read. -/
theorem next_of_done (done : request.isDone n = true)
    (closes : Closes c) : ∃ events c',
      next (.reading s request n) c = (.ok (none, .finished), c') ∧ Logged events c c' ∧
        ∀ e ∈ events, IsClosing e := by
  obtain ⟨events, c', closed, left, areClosing⟩ := closeScanner_ok s closes
  refine ⟨events, c', ?_, left, areClosing⟩
  rw [next, advance, if_pos done, Action.bind_of_ok closed]
  rfl

/-- A scanner is closed after a read that is its last one. -/
theorem close_after_read (s' : Scanner) {events : List Event} {c' : Client}
    (left : Steady events c c') (areClosing : ∀ e ∈ events, IsClosing e) (closes : Closes c) :
    ∃ events c'', closeScanner s' c' = (.ok (), c'') ∧ Logged events c c'' ∧
      ∀ e ∈ events, IsClosing e := by
  obtain ⟨more, c'', closed, left', areClosing'⟩ := closeScanner_ok s' (closes.of_plan left.plan)
  exact ⟨events ++ more, c'', closed, left.toLogged.trans left',
    List.forall_mem_append.mpr ⟨areClosing, areClosing'⟩⟩

/-- At the end of its rows a scanner is closed. -/
theorem next_of_end (more : request.isDone n = false)
    (gives : s.gives c.store.readFault? = ([], none))
    (closes : Closes c) : ∃ events c',
      next (.reading s request n) c = (.ok (none, .finished), c') ∧ Logged events c c' ∧
        ∀ e ∈ events, IsClosing e := by
  obtain ⟨events, left, gave⟩ := readRow_leaves s c
  rw [gives] at gave
  obtain ⟨areClosing, s', read⟩ := gave
  have ran : readRow s c = (.ok (none, s'), (readRow s c).2) := Prod.ext read rfl
  obtain ⟨events, c', closed, after⟩ := close_after_read s' left areClosing closes
  refine ⟨events, c', ?_, after⟩
  rw [next, advance, if_neg (Bool.eq_false_iff.mp more), Action.bind_of_ok (attempt_of_eq ran)]
  exact Action.bind_of_ok closed

/-- After a read that fails a scanner is closed, and the fault comes out. -/
theorem next_of_fault {e : Fault} (more : request.isDone n = false)
    (gives : s.gives c.store.readFault? = ([], some e))
    (closes : Closes c) : ∃ events c',
      next (.reading s request n) c = (.error (storeFault (.readScan request.table) e), c') ∧
        Logged events c c' ∧ ∀ e ∈ events, IsClosing e := by
  obtain ⟨events, left, gave⟩ := readRow_leaves s c
  rw [gives] at gave
  obtain ⟨areClosing, read⟩ := gave
  have ran : readRow s c = (.error e, (readRow s c).2) := Prod.ext read rfl
  obtain ⟨events, c', closed, after⟩ :=
    close_after_read { s with isReading := false } left areClosing closes
  refine ⟨events, c', ?_, after⟩
  rw [next, advance, if_neg (Bool.eq_false_iff.mp more), Action.bind_of_ok (attempt_of_eq ran)]
  exact Action.bind_of_ok closed

/-- A row that is read counts at once. -/
theorem next_of_row {row : ScannedRow} {rest : List ScannedRow} {fault : Option Fault}
    (more : request.isDone n = false)
    (gives : s.gives c.store.readFault? = (row :: rest, fault)) : ∃ s' c',
      next (.reading s request n) c = (.ok (some row, .reading s' request (n + 1)), c') ∧
        s'.gives c'.store.readFault? = (rest, fault) ∧ c'.store.plan = c.store.plan ∧
        c'.store.log = c.store.log ∧ c'.metrics =
          (c.metrics.add (.rowsRead request.table)).add (.cellsRead request.table)
            row.cells.length := by
  obtain ⟨events, left, gave⟩ := readRow_leaves s c
  rw [gives] at gave
  obtain ⟨rfl, s', read, later⟩ := gave
  have ran : readRow s c = (.ok (some row, s'), (readRow s c).2) := Prod.ext read rfl
  let counted (m : Metrics) : Metrics :=
    (m.add (.rowsRead request.table)).add (.cellsRead request.table) row.cells.length
  let c₁ := (readRow s c).2
  refine ⟨s', { c₁ with metrics := counted c₁.metrics }, ?_, ?_, left.plan,
    left.log.trans (List.append_nil _), congrArg counted left.metrics⟩
  · rw [next, advance, if_neg (Bool.eq_false_iff.mp more), Action.bind_of_ok (attempt_of_eq ran)]
    rfl
  · rw [← later, ← left.reads]

theorem logAll_eq (events : List Event) (c : Client) : logAll events c =
    (.ok (), { c with store := { c.store with log := c.store.log ++ events } }) := by
  induction events generalizing c with
  | nil =>
    rw [List.append_nil]
    rfl
  | cons e rest ih =>
    refine (ih _).trans ?_
    rw [List.append_cons]
    rfl

/-! All rows. -/

/-- Why a scan stops after it has had some rows taken, what it comes to then, and how many rows it
has handed over. -/
inductive Stopped (handler : RowHandler) (request : ScanRequest) (rows : List ScannedRow)
    (fault : Option Fault) (n : Nat) : (handed : Nat) → Except Fault (List ScannedRow) → Prop
  | limit (done : request.isDone n = true) :
      Stopped handler request rows fault n n (.ok (rows.take n))
  | ended (more : request.isDone n = false) (all : n = rows.length) (ends : fault = none) :
      Stopped handler request rows fault n n (.ok (rows.take n))
  | failed {e : Fault} (more : request.isDone n = false) (all : n = rows.length)
      (fails : fault = some e) :
      Stopped handler request rows fault n n (.error (storeFault (.readScan request.table) e))
  | refused {row : ScannedRow} {e : Fault} (more : request.isDone n = false)
      (found : rows[n]? = some row) (refused : handler n row = .error e) :
      Stopped handler request rows fault n (n + 1) (.error (.handlerAborted row.key e))

variable {fault : Option Fault}

/-- A scan that has had a number of rows taken, none of them at the limit. -/
structure Taken (handler : RowHandler) (request : ScanRequest) (rows : List ScannedRow) (n : Nat) :
    Prop where
  within : n ≤ rows.length
  takes : Takes handler (rows.take n)
  undone : ∀ i < n, request.isDone i = false

/-- A scan between two rows. -/
structure Midway (handler : RowHandler) (request : ScanRequest) (rows : List ScannedRow)
    (fault : Option Fault) (c₀ : Client) (n : Nat) (s : Scanner) (c : Client) : Prop extends
    Taken handler request rows n where
  gives : s.gives c.store.readFault? = (rows.drop n, fault)
  plan : c.store.plan = c₀.store.plan
  handed : Handed handler request.table (rows.take n) [] c₀ c

/-- A scan all of whose rows have been handled. -/
def Halted (handler : RowHandler) (request : ScanRequest) (rows : List ScannedRow)
    (fault : Option Fault) (c₀ : Client) (outcome : Except Fault (List ScannedRow)) (c : Client) :
    Prop :=
  ∃ n handed closing, Taken handler request rows n ∧
    Stopped handler request rows fault n handed outcome ∧ (∀ e ∈ closing, IsClosing e) ∧
    Handed handler request.table (rows.take handed) closing c₀ c

theorem Midway.start (s : Scanner) (c : Client) (handler : RowHandler) (request : ScanRequest) :
    Midway handler request (s.gives c.store.readFault?).1 (s.gives c.store.readFault?).2 c 0 s
      c where
  within := Nat.zero_le _
  takes := nofun
  undone := nofun
  gives := rfl
  plan := rfl
  handed := .refl handler request.table c

/-- Handling rows has come to its end, and nothing is left that cannot be closed. -/
def HasEnded (handler : RowHandler) (request : ScanRequest) (rows : List ScannedRow)
    (fault : Option Fault) (c₀ : Client)
    (ran : Except Fault (Except Fault (List ScannedRow) × Cursor) × Client) : Prop :=
  ∃ outcome left c', ran = (.ok (outcome, left), c') ∧ (left = .finished ∨ Closes c') ∧
    Halted handler request rows fault c₀ outcome c'

namespace Midway

/-- At the limit and at the end of the rows no row is handed over. -/
theorem ends (h : Midway handler request rows fault c₀ n s c) (closes : Closes c₀)
    (last : request.isDone n = true ∨ rows.length ≤ n) (fuel : Nat) :
    HasEnded handler request rows fault c₀
      (handleRows handler (fuel + 1) (rows.take n) (.reading s request n) c) := by
  have closes' : Closes c := closes.of_plan h.plan
  have all (last : rows.length ≤ n) : n = rows.length := Nat.le_antisymm h.within last
  cases more : request.isDone n with
  | true =>
    obtain ⟨events, c', ran, left, areClosing⟩ := next_of_done (s := s) more closes'
    exact ⟨_, _, c', Action.bind_of_ok (attempt_of_eq ran), .inl rfl, n, n, _, h.toTaken,
      .limit more, areClosing, h.handed.logged left⟩
  | false =>
    have last := last.resolve_left (by rw [more]; nofun)
    have gives := h.gives
    rw [List.drop_eq_nil_of_le last] at gives
    cases fault with
    | none =>
      obtain ⟨events, c', ran, left, areClosing⟩ := next_of_end more gives closes'
      exact ⟨_, _, c', Action.bind_of_ok (attempt_of_eq ran), .inl rfl, n, n, _, h.toTaken,
        .ended more (all last) rfl, areClosing, h.handed.logged left⟩
    | some e =>
      obtain ⟨events, c', ran, left, areClosing⟩ := next_of_fault more gives closes'
      exact ⟨_, _, c', Action.bind_of_ok (attempt_of_eq ran), .inl rfl, n, n, _, h.toTaken,
        .failed more (all last) rfl, areClosing, h.handed.logged left⟩

/-- Any other row is handed over. It is refused, and that is the end; or it is taken. -/
theorem hands (h : Midway handler request rows fault c₀ n s c) (closes : Closes c₀)
    (more : request.isDone n = false) (inside : n < rows.length) (fuel : Nat) :
    HasEnded handler request rows fault c₀
        (handleRows handler (fuel + 1) (rows.take n) (.reading s request n) c) ∨
      ∃ s' c', Midway handler request rows fault c₀ (n + 1) s' c' ∧
        handleRows handler (fuel + 1) (rows.take n) (.reading s request n) c =
          handleRows handler fuel (rows.take (n + 1)) (.reading s' request (n + 1)) c' := by
  have gives := h.gives
  rw [List.drop_eq_getElem_cons inside] at gives
  obtain ⟨s', c₁, ran, gives', plan, log, metrics⟩ := next_of_row more gives
  have turn : handleRows handler (fuel + 1) (rows.take n) (.reading s request n) c = _ :=
    Action.bind_of_ok (attempt_of_eq ran)
  dsimp only at turn
  have one_more : rows.take (n + 1) = rows.take n ++ [rows[n]] :=
    (List.take_append_getElem inside).symm
  have length : (rows.take n).length = n := List.length_take_of_le h.within
  rw [length] at turn
  cases handled : handler n rows[n] with
  | error e =>
    rw [handled] at turn
    have met : Handed handler request.table (rows.take (n + 1)) [] c₀
        (meet ⟨.handler rows[n].key, e⟩ c₁).2 := by
      rw [one_more]
      refine h.handed.concat ?_ metrics
      rw [length, handled]
      exact log.trans (List.append_nil _).symm
    let c₂ := (count (.errors e.kind "scan_handler") 1 (meet ⟨.handler rows[n].key, e⟩ c₁).2).2
    refine .inl ⟨_, .reading s' request (n + 1), c₂, turn, .inr ?_, n, n + 1, [], h.toTaken,
      .refused more (List.getElem?_eq_getElem inside) handled, List.forall_mem_nil _, ?_⟩
    · exact closes.of_plan (plan.trans h.plan)
    · exact met.count (s := .errors e.kind "scan_handler") ⟨nofun, nofun⟩ 1
  | ok events =>
    rw [handled] at turn
    dsimp only at turn
    rw [Action.bind_of_ok (logAll_eq events c₁), ← one_more] at turn
    let c₂ : Client := { c₁ with store := { c₁.store with log := c₁.store.log ++ events } }
    have accepted : handler (rows.take n).length rows[n] = .ok events := by rw [length, handled]
    refine .inr ⟨s', c₂, ⟨⟨inside, ?_, ?_⟩, gives', plan.trans h.plan, ?_⟩, turn⟩
    · rw [one_more]
      exact h.takes.concat accepted
    · intro i before
      rcases Nat.lt_succ_iff_lt_or_eq.mp before with earlier | rfl
      · exact h.undone i earlier
      · exact more
    · rw [one_more]
      refine h.handed.concat ?_ metrics
      rw [accepted]
      exact congrArg (· ++ events) log

/-- The loop ends, as long as it may make a turn for every row that is left. -/
theorem run (h : Midway handler request rows fault c₀ n s c) (closes : Closes c₀) {fuel : Nat}
    (enough : rows.length < n + fuel) : HasEnded handler request rows fault c₀
      (handleRows handler fuel (rows.take n) (.reading s request n) c) := by
  induction fuel generalizing n s c with
  | zero => exact absurd (Nat.lt_of_lt_of_le enough h.within) (Nat.lt_irrefl _)
  | succ fuel ih =>
    by_cases last : request.isDone n = true ∨ rows.length ≤ n
    · exact h.ends closes last fuel
    · obtain ⟨more, inside⟩ := not_or.mp last
      rcases h.hands closes (Bool.eq_false_iff.mpr more) (Nat.not_le.mp inside) fuel with
        ended | ⟨s', c', goesOn, same⟩
      · exact ended
      · rw [same]
        exact ih goesOn (by omega)

end Midway

/-- The last part of a scan: what is left is closed, and the scan counts. -/
def finishScan (table : String) (ended : Except Fault (List ScannedRow) × Cursor) :
    Action Client (List ScannedRow) := do
  count (.scanDuration table)
  closeCursor ended.2
  count (.scans table ended.1.toBool)
  match ended.1 with
  | .ok rows =>
    update fun s => { s with scanCount := s.scanCount + 1 }
    return rows
  | .error e => Action.fail e

/-- A scan once its scanner has been opened. -/
def scanOpened (request : ScanRequest) (handler : RowHandler) (s : Scanner) :
    Action Client (List ScannedRow) :=
  handleRows handler (s.remaining.length + 1) [] (.reading s request 0) >>= finishScan request.table

/-- A scan that opens a scanner goes on with that scanner. -/
theorem scan_eq_scanOpened {request : ScanRequest} {expression : Option String}
    {filter : Option Filter.Node} {connection : Connection}
    (current : c.service.connection = some connection)
    (parsed : Filter.parse c.service.filters (expression.getD "").toList = .ok filter)
    (opened : openScanner connection { request with filter } c = (.ok s, c')) :
    scan request expression handler c = scanOpened { request with filter } handler s c' := by
  have first : next (.waiting connection { request with filter }) c =
      next (.reading s { request with filter } 0) c' := Action.bind_of_ok (attempt_of_eq opened)
  have handled (fuel : Nat) :
      handleRows handler (fuel + 1) [] (.waiting connection { request with filter }) c =
        handleRows handler (fuel + 1) [] (.reading s { request with filter } 0) c' := by
    rcases ran : next (.reading s { request with filter } 0) c' with ⟨outcome, c₁⟩
    have waiting : handleRows handler (fuel + 1) []
        (.waiting connection { request with filter }) c = _ :=
      Action.bind_of_ok (attempt_of_eq (first.trans ran))
    have reading : handleRows handler (fuel + 1) []
        (.reading s { request with filter } 0) c' = _ := Action.bind_of_ok (attempt_of_eq ran)
    exact waiting.trans reading.symm
  have scanned : scan request expression handler c =
      (handleRows handler (c.store.rows.length + 1) []
        (.waiting connection { request with filter }) >>= finishScan request.table) c :=
    Action.bind_of_ok (openCursor_of_parse current parsed)
  rw [scanned, scanOpened, openScanner_remaining opened]
  rcases ran : handleRows handler (c.store.rows.length + 1) []
    (.reading s { request with filter } 0) c' with ⟨e | ended, c₁⟩
  · rw [Action.bind_of_error ran, Action.bind_of_error ((handled _).trans ran)]
  · rw [Action.bind_of_ok ran, Action.bind_of_ok ((handled _).trans ran)]

/-- Closing and counting leave the outcome of a scan as it is. -/
theorem finishScan_handed (outcome : Except Fault (List ScannedRow)) {left : Cursor}
    (handed : Handed handler table rows closing c₀ c) (closes : left = .finished ∨ Closes c) :
    ∃ events c', finishScan table (outcome, left) c = (outcome, c') ∧
      (∀ e ∈ events, IsClosing e) ∧ Handed handler table rows (closing ++ events) c₀ c' := by
  let c₁ : Client := { c with metrics := c.metrics.add (.scanDuration table) }
  have timed : Handed handler table rows closing c₀ c₁ :=
    handed.count (s := .scanDuration table) ⟨nofun, nofun⟩ 1
  obtain ⟨events, c₂, closed, later, areClosing⟩ := closeCursor_ok (c := c₁) closes
  have counted := (timed.logged later).count (s := .scans table outcome.toBool) ⟨nofun, nofun⟩ 1
  have first : count (.scanDuration table) 1 c = (.ok (), c₁) := rfl
  have ran : finishScan table (outcome, left) c = _ :=
    (Action.bind_of_ok first).trans (Action.bind_of_ok closed)
  cases outcome with
  | ok rows' =>
    exact ⟨events, _, ran, areClosing, counted.log, counted.rowsRead, counted.cellsRead⟩
  | error e => exact ⟨events, _, ran, areClosing, counted⟩

/-- A scan of an open scanner stops after some rows, and tells why. -/
theorem scanOpened_halted (request : ScanRequest) (handler : RowHandler) (s : Scanner)
    (closes : Closes c) :
    Halted handler request (s.gives c.store.readFault?).1 (s.gives c.store.readFault?).2 c
      (scanOpened request handler s c).1 (scanOpened request handler s c).2 := by
  have midway := Midway.start s c handler request
  have enough : (s.gives c.store.readFault?).1.length < 0 + (s.remaining.length + 1) := by
    have few := Scanner.length_given s.backend c.store.readFault? s.remaining s.index
    rw [Nat.zero_add]
    exact Nat.lt_succ_of_le few
  obtain ⟨outcome, left, c₁, ran, closes', n, k, closing, taken, stopped, areClosing, handed⟩ :=
    midway.run closes enough
  obtain ⟨events, c', finished, areClosing', handed'⟩ := finishScan_handed outcome handed closes'
  have scanned : scanOpened request handler s c = (outcome, c') :=
    (Action.bind_of_ok ran).trans finished
  rw [scanned]
  exact ⟨n, k, closing ++ events, taken, stopped,
    List.forall_mem_append.mpr ⟨areClosing, areClosing'⟩, handed'⟩

/-! Where a scan stops. -/

/-- No more rows are taken than the limit allows. -/
theorem Taken.le_bound (taken : Taken handler request rows n) : n ≤ request.bound rows.length := by
  have undone := taken.undone
  unfold ScanRequest.bound
  cases limited : request.limit with
  | none => exact taken.within
  | some limit =>
    refine Nat.le_min.mpr ⟨taken.within, ?_⟩
    rcases Nat.eq_zero_or_pos n with rfl | positive
    · exact Nat.zero_le _
    · have below := ScanRequest.isDone_iff.mp (undone (n - 1) (by omega)) limit limited
      omega

theorem bound_le_of_done (done : request.isDone n = true) (stored : Nat) :
    request.bound stored ≤ n := by
  unfold ScanRequest.isDone at done
  unfold ScanRequest.bound
  cases limited : request.limit with
  | none =>
    rw [limited] at done
    cases done
  | some limit =>
    rw [limited] at done
    have reached : limit ≤ n := of_decide_eq_true done
    refine Nat.le_trans (Nat.min_le_right _ _) ?_
    omega

theorem lt_bound {stored : Nat} (more : request.isDone n = false) (inside : n < stored) :
    n < request.bound stored := by
  have below := ScanRequest.isDone_iff.mp more
  unfold ScanRequest.bound
  cases limited : request.limit with
  | none => exact inside
  | some limit =>
    have under := below limit limited
    exact Nat.lt_min.mpr ⟨inside, by omega⟩

/-- What a scan comes to after a number of rows that have all been taken: a fault counts if the
scan goes on to it. -/
def scanEnd (request : ScanRequest) (rows : List ScannedRow) (failing : Option (Nat × Fault))
    (n : Nat) : Except Fault (List ScannedRow) :=
  match failing with
  | none => .ok (rows.take n)
  | some (f, e) =>
    if f = n ∧ ∀ limit ∈ request.limit, (n : Int) < limit then
      .error (storeFault (.readScan request.table) e)
    else .ok (rows.take n)

/-- A scan stops after as many rows as there can be, or before when one of them is refused. -/
theorem Stopped.cases_bound {k : Nat} {outcome : Except Fault (List ScannedRow)}
    (stopped : Stopped handler request rows fault n k outcome)
    (taken : Taken handler request rows n) :
    n = request.bound rows.length ∧ k = n ∧
        outcome = scanEnd request rows (fault.map (rows.length, ·)) n ∨
      n < request.bound rows.length ∧ k = n + 1 ∧ ∃ row e, rows[n]? = some row ∧
        handler n row = .error e ∧ outcome = .error (.handlerAborted row.key e) := by
  have le := taken.le_bound
  have most := request.bound_le rows.length
  cases stopped with
  | limit done =>
    have reached := bound_le_of_done done rows.length
    refine .inl ⟨by omega, rfl, ?_⟩
    cases fault with
    | none => rfl
    | some e =>
      refine (if_neg fun goesOn => ?_).symm
      exact Bool.false_ne_true ((ScanRequest.isDone_iff.mpr goesOn.2).symm.trans done)
  | ended more all ends =>
    subst ends
    exact .inl ⟨by omega, rfl, rfl⟩
  | failed more all fails =>
    subst fails
    exact .inl ⟨by omega, rfl, (if_pos ⟨all.symm, ScanRequest.isDone_iff.mp more⟩).symm⟩
  | refused more found refused =>
    have inside : n < rows.length := (List.getElem?_eq_some_iff.mp found).1
    exact .inr ⟨lt_bound more inside, rfl, _, _, found, refused, rfl⟩

theorem not_refused {m : Nat} {row : ScannedRow} {e : Fault} (takes : Takes handler (rows.take m))
    (before : n < m) (found : rows[n]? = some row) : handler n row ≠ .error e := by
  have inside : (rows.take m)[n]? = some row := by rw [List.getElem?_take_of_lt before, found]
  obtain ⟨events, taken⟩ := takes n row inside
  rw [taken]
  nofun

/-- A scan whose handler refuses a row within the bound stops there, if that is the first one. -/
theorem Halted.of_refused {outcome : Except Fault (List ScannedRow)} {h : Nat} {row : ScannedRow}
    {e : Fault} (halted : Halted handler request rows fault c₀ outcome c)
    (inside : h < request.bound rows.length) (takes : Takes handler (rows.take h))
    (found : rows[h]? = some row) (refused : handler h row = .error e) :
    outcome = .error (.handlerAborted row.key e) ∧ ∃ closing, (∀ e ∈ closing, IsClosing e) ∧
      Handed handler request.table (rows.take (h + 1)) closing c₀ c := by
  obtain ⟨n, k, closing, taken, stopped, areClosing, handed⟩ := halted
  rcases stopped.cases_bound taken with ⟨rfl, -, -⟩ | ⟨-, rfl, row', e', found', refused', rfl⟩
  · exact absurd refused (not_refused taken.takes inside found)
  · rcases Nat.lt_trichotomy n h with before | rfl | after
    · exact absurd refused' (not_refused takes before found')
    · cases found.symm.trans found'
      cases refused.symm.trans refused'
      exact ⟨rfl, closing, areClosing, handed⟩
    · exact absurd refused (not_refused taken.takes after found)

/-- A scan whose handler takes every row within the bound comes to its end. -/
theorem Halted.of_takes {outcome : Except Fault (List ScannedRow)}
    (halted : Halted handler request rows fault c₀ outcome c)
    (takes : Takes handler (rows.take (request.bound rows.length))) :
    outcome = scanEnd request rows (fault.map (rows.length, ·)) (request.bound rows.length) ∧
      ∃ closing, (∀ e ∈ closing, IsClosing e) ∧
        Handed handler request.table (rows.take (request.bound rows.length)) closing c₀ c := by
  obtain ⟨n, k, closing, taken, stopped, areClosing, handed⟩ := halted
  rcases stopped.cases_bound taken with ⟨rfl, rfl, same⟩ | ⟨before, -, row, e, found, refused, -⟩
  · exact ⟨same, closing, areClosing, handed⟩
  · exact absurd refused (not_refused takes before found)

/-- How many rows of a scanner can be read: all of them, or those before a read that fails. -/
def readable (rows : Nat) (failing : Option (Nat × Fault)) : Nat :=
  failing.elim rows fun failing => min rows failing.1

theorem readable_le (rows : Nat) (failing : Option (Nat × Fault)) :
    readable rows failing ≤ rows := by
  cases failing with
  | none => exact Nat.le_refl rows
  | some failing => exact Nat.min_le_left _ _

/-- The rows that are read, in the order of the scanner, and the fault after them. -/
theorem gives_eq {failing : Option (Nat × Fault)} (gives : s.Gives c.store rows failing) :
    s.gives c.store.readFault? =
      (rows.take (readable rows.length failing), failing.map Prod.snd) := by
  rw [gives.given, readable]
  cases failing with
  | none => simp
  | some failing => simp [Nat.min_eq_right (gives.within failing.1 failing.2 rfl)]

theorem scanEnd_readable {failing : Option (Nat × Fault)} (gives : s.Gives c.store rows failing)
    (below : n ≤ readable rows.length failing) :
    scanEnd request (rows.take (readable rows.length failing))
        ((failing.map Prod.snd).map (readable rows.length failing, ·)) n =
      scanEnd request rows failing n := by
  have same : (rows.take (readable rows.length failing)).take n = rows.take n := by
    rw [List.take_take, Nat.min_eq_left below]
  unfold scanEnd
  rw [same]
  cases failing with
  | none => rfl
  | some failing =>
    have all : readable rows.length (some failing) = failing.1 :=
      Nat.min_eq_right (gives.within failing.1 failing.2 rfl)
    rw [all]
    rfl

/-- How a scan ends whose scanner is opened, and closed, without a fault. There are so many rows up
to a read that fails and up to the limit. If the handler refuses one of them, the first such row is
the last one that it is handed, and the scan fails with it. Else it is handed them all in their
order, and the scan fails only if it goes on to the read that fails. What is handed over counts, and
the parts of a cell are the slices that it addresses. -/
theorem scan_outcome (handler : RowHandler) :
    (∀ {request expression filter connection s c c'},
      c.service.connection = some connection →
      Filter.parse c.service.filters (expression.getD "").toList = .ok filter →
      openScanner connection { request with filter } c = (.ok s, c') →
        c'.metrics = c.metrics ∧
        scan request expression handler c = scanOpened { request with filter } handler s c') ∧
    (∀ {request : ScanRequest} {s : Scanner} {c : Client} {rows failing},
      s.Gives c.store rows failing → Closes c →
      let m := request.bound (readable rows.length failing)
      let ran := scanOpened request handler s c
      (∀ h row e, h < m → Takes handler (rows.take h) → rows[h]? = some row →
        handler h row = .error e →
          ran.1 = .error (.handlerAborted row.key e) ∧
            ∃ closing, (∀ e ∈ closing, IsClosing e) ∧
              Handed handler request.table (rows.take (h + 1)) closing c ran.2) ∧
      (Takes handler (rows.take m) →
        ran.1 = scanEnd request rows failing m ∧ (rows.take m).length = m ∧
          ∃ closing, (∀ e ∈ closing, IsClosing e) ∧
            Handed handler request.table (rows.take m) closing c ran.2)) ∧
    ∀ (array : Bytes) (offset length : Nat),
      (Slice.mk array offset length).bytes = (array.take (offset + length)).drop offset := by
  refine ⟨?_, ?_, Slice.bytes_nat⟩
  · intro request expression filter connection s c c' current parsed opened
    have beside := openScanner_beside connection { request with filter } c
    rw [opened] at beside
    exact ⟨congrArg (·.1.2) beside, scan_eq_scanOpened current parsed opened⟩
  · intro request s c rows failing gives closes m ran
    have halted := scanOpened_halted request handler s closes
    rw [gives_eq gives] at halted
    have below : m ≤ readable rows.length failing := request.bound_le _
    have within := readable_le rows.length failing
    have length := List.length_take_of_le within
    have bound : request.bound (rows.take (readable rows.length failing)).length = m := by
      rw [length]
    have taken {k : Nat} (le : k ≤ m) :
        (rows.take (readable rows.length failing)).take k = rows.take k := by
      rw [List.take_take, Nat.min_eq_left (Nat.le_trans le below)]
    refine ⟨fun h row e before takes found refused => ?_, fun takes => ?_⟩
    · rw [← taken before]
      refine halted.of_refused (bound.symm ▸ before) ?_ ?_ refused
      · rw [taken (Nat.le_of_lt before)]
        exact takes
      · rw [List.getElem?_take_of_lt (Nat.lt_of_lt_of_le before below), found]
    · have ended := halted.of_takes (by rwa [bound, taken (Nat.le_refl m)])
      rw [bound, length, taken (Nat.le_refl m), scanEnd_readable gives below] at ended
      exact ⟨ended.1, List.length_take_of_le (Nat.le_trans below within), ended.2⟩

/-- Two rows, after the first of which reading fails: a limit of one row keeps that from being
noticed, and so does a handler that refuses the first row. -/
theorem scan_outcome_at_limit :
    let fault : Fault := .collaborator "OSError" "gone"
    let cell : Cell := .ofBytes [0x72] [0x63] [] [0x31] 12
    let rows : List ScannedRow := [⟨some [0x72], [cell]⟩, ⟨some [0x73], []⟩]
    let c : Client :=
      { service :=
          { name := "s", settings := ∅, backend := .direct, connection := some ⟨1, .direct⟩ }
        store := Store.planFault
          { rows := [⟨some [0x72], [⟨some [0x63], none, some [0x31], 12⟩]⟩, ⟨some [0x73], []⟩] }
          .read (some ⟨1, fault⟩)
        metrics := {} }
    let request (limit : Option Int) : ScanRequest := { table := "t", limit }
    let takes : RowHandler := fun _ row => .ok [.rowHandled row]
    let refuses : RowHandler := fun _ _ => .error (.collaborator "RuntimeError" "full")
    (scan (request (some 1)) none takes c).1 = .ok (rows.take 1) ∧
      (scan (request none) none takes c).1 = .error (.store (.readScan "t") fault) ∧
      (scan (request none) none refuses c).1 =
        .error (.handlerAborted (some [0x72]) (.collaborator "RuntimeError" "full")) ∧
      (scan (request none) none refuses c).2.metrics.count (.rowsRead "t") = 1 := by
  intro fault cell rows c request takes refuses
  let s : Scanner := { backend := .direct, remaining := rows.map .ok }
  let c' : Client := (openScanner ⟨1, .direct⟩ (request none) c).2
  have gives : s.Gives c'.store rows (some (1, fault)) := by
    refine Scanner.gives_direct (fun f e failing => ?_) rfl
    cases failing
    decide
  have closes : Closes c' := rfl
  have all (rows : List ScannedRow) : Takes takes rows := fun _ row _ => ⟨[.rowHandled row], rfl⟩
  obtain ⟨same, ends, -⟩ := scan_outcome takes
  obtain ⟨same', ends', -⟩ := scan_outcome refuses
  have opened (limit : Option Int) : openScanner ⟨1, .direct⟩ (request limit) c = (.ok s, c') := rfl
  have limited := @same (request (some 1)) none none ⟨1, .direct⟩ s c c' rfl rfl (opened _)
  have unlimited := @same (request none) none none ⟨1, .direct⟩ s c c' rfl rfl (opened _)
  have refused := @same' (request none) none none ⟨1, .direct⟩ s c c' rfl rfl (opened _)
  have atLimit := (@ends (request (some 1)) s c' rows _ gives closes).2 (all _)
  have atFault := (@ends (request none) s c' rows _ gives closes).2 (all _)
  obtain ⟨aborted, closing, -, handed⟩ :=
    (@ends' (request none) s c' rows _ gives closes).1 0 _ _ (by decide) nofun rfl rfl
  rw [limited.2, unlimited.2, refused.2]
  exact ⟨atLimit.1, atFault.1, aborted, handed.rowsRead⟩

/-- A fault of the service's own kinds comes out of a scan as it is, and not as one of the store. -/
theorem scan_keeps_service_fault :
    let fault : Fault := .collaborator "ServiceNotEnabled" "gone"
    let c : Client :=
      { service :=
          { name := "s", settings := ∅, backend := .direct, connection := some ⟨1, .direct⟩ }
        store := Store.planFault { rows := [⟨some [0x72], []⟩] } .read (some ⟨0, fault⟩)
        metrics := {} }
    let handler : RowHandler := fun _ row => .ok [.rowHandled row]
    Closes c ∧ (∀ rows, Takes handler rows) ∧ ∃ s c',
      openScanner ⟨1, .direct⟩ { table := "t" } c = (.ok s, c') ∧
        s.Gives c'.store [⟨some [0x72], []⟩] (some (0, fault)) ∧
        ∃ e, (scan { table := "t" } none handler c).1 = .error e ∧ e.kind ≠ "StoreIOError" := by
  intro fault c handler
  refine ⟨rfl, fun _ _ row _ => ⟨[.rowHandled row], rfl⟩, _, _, rfl, ?_, fault, rfl, by decide⟩
  refine @Scanner.gives_direct _ [⟨some [0x72], []⟩] _ (fun f e failing => ?_) rfl
  cases failing
  exact Nat.zero_le _

end Client
end WideColumn
