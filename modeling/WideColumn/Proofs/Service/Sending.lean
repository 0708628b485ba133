import WideColumn.Proofs.Service.Incidents
import WideColumn.Proofs.Service.Writing

/-! Batches that are sent one after the other. Either all of them are sent, or one of them cannot be
opened, filled or sent: then those before it are all that have been, and none after it is opened. -/
namespace WideColumn

open WideColumn.Action (Leaves)
open Store (Event Incident Point)

/-- What is put into a batch: a row, a column and a value. -/
abbrev Store.Filling := Option Bytes × Bytes × Option Bytes

def Store.Event.filling? : Event → Option Store.Filling
  | batchFilled row column value => some (row, column, value)
  | _ => none

/-- What a log tells to have been put into batches. -/
def Store.fillings (log : List Event) : List Store.Filling := log.filterMap (·.filling?)

def RowCell.filling (c : RowCell) : Store.Filling := (c.row, c.cell.name, c.cell.value)

def RowCell.filled (c : RowCell) : Event := .batchFilled c.row c.cell.name c.cell.value

/-- How a cell cannot be put into a batch: its column has no name, or the store refuses it. -/
inductive RowCell.Unfilled (c : RowCell) : Fault → List (Event ⊕ Incident) → Prop
  | nameless (m : Mismatch) : Client.columnName c.cell = .error m → c.Unfilled (.mismatch m) []
  | refused (e : Fault) : c.cell.IsNamed →
      c.Unfilled e [.inl c.filled, .inr ⟨.point .batchPut, e⟩]

/-- What happens when a batch is filled with cells. -/
def RowCell.Fills (cells : List RowCell) (trace : List (Event ⊕ Incident)) :
    Except Fault Unit → Prop
  | .ok () => (∀ c ∈ cells, c.cell.IsNamed) ∧ trace = cells.map fun c => .inl c.filled
  | .error e => ∃ front c back last, cells = front ++ c :: back ∧
      (∀ d ∈ front, d.cell.IsNamed) ∧ c.Unfilled e last ∧
      trace = (front.map fun d => .inl d.filled) ++ last

namespace Run

/-- How a batch comes to nothing: it is not opened, it is dropped while it is filled, or the store is
asked to send it and fails. -/
inductive Fails (table : String) (run : Run) (e : Fault) : List (Event ⊕ Incident) → Prop
  | opening : Fails table run e
      [.inl (.batchOpened table run.timestamp), .inr ⟨.point .batch, e⟩]
  | filling (trace) : RowCell.Fills run.cells trace (.error e) → Fails table run e
      (.inl (.batchOpened table run.timestamp) :: (trace ++ [.inl (.batchDropped e.kind)]))
  | sending : (∀ c ∈ run.cells, c.cell.IsNamed) → Fails table run e
      ((run.events table).map .inl ++ [.inr ⟨.point .batchSend, e⟩])

def Sends (table : String) (run : Run) (trace : List (Event ⊕ Incident)) :
    Except Fault Unit → Prop
  | .ok () => (∀ c ∈ run.cells, c.cell.IsNamed) ∧ trace = (run.events table).map .inl
  | .error e => run.Fails table e trace

/-- How the sending of batches stops: there are no more, or the first one comes to nothing. -/
inductive Stops (table : String) :
    List Run → Except Fault Unit → List (Event ⊕ Incident) → Prop
  | finished : Stops table [] (.ok ()) []
  | failed (run later e trace) : run.Fails table e trace →
      Stops table (run :: later) (.error e) trace

end Run

namespace Client

/-- What a client is after it has logged events and met faults. -/
structure Saw (trace : List (Event ⊕ Incident)) (c c' : Client) : Prop where
  log : c'.store.log = c.store.log ++ trace.filterMap Sum.getLeft?
  incidents : c'.store.incidents = c.store.incidents ++ trace.filterMap Sum.getRight?

theorem saw_isTrace : Action.IsTrace Saw where
  refl _ := ⟨(List.append_nil _).symm, (List.append_nil _).symm⟩
  trans first second := by
    constructor
    · rw [second.log, first.log, List.filterMap_append, List.append_assoc]
    · rw [second.incidents, first.incidents, List.filterMap_append, List.append_assoc]

variable {α : Type} {a : Action Client α} {c : Client}
  {goal : Except Fault α × Client → List (Event ⊕ Incident) → Prop}

/-- Something is logged first. -/
theorem Saw.logged {e : Event}
    (next : ∀ c', Leaves Saw c' a fun ran more => goal ran (.inl e :: more)) :
    Leaves Saw c (Client.log e >>= fun _ => a) goal := by
  obtain ⟨more, left, met⟩ := next (Client.log e c).2
  have here : Saw [.inl e] c (Client.log e c).2 := ⟨rfl, (List.append_nil _).symm⟩
  exact ⟨.inl e :: more, saw_isTrace.trans here left, met⟩

theorem pass_saw (point : Point) (c : Client) : Leaves Saw c (pass point) fun ran trace =>
    trace = [] ∧ ran.1 = .ok () ∨ ∃ e, trace = [.inr ⟨.point point, e⟩] ∧ ran.1 = .error e := by
  obtain ⟨met, left, passed⟩ := pass_passed point c
  have log := pass_log point c
  rcases passed with ⟨rfl, went⟩ | ⟨e, rfl, failed⟩
  · refine ⟨[], ⟨?_, left.noted⟩, .inl ⟨rfl, went⟩⟩
    rw [log]
    exact (List.append_nil _).symm
  · refine ⟨[.inr ⟨.point point, e⟩], ⟨?_, left.noted⟩, .inr ⟨e, rfl, failed⟩⟩
    rw [log]
    exact (List.append_nil _).symm

/-- A point comes first, at which there may be a fault. -/
theorem Saw.passing {point : Point} (next : ∀ c', Leaves Saw c' a goal)
    (failed : ∀ e c', goal (.error e, c') [.inr ⟨.point point, e⟩]) :
    Leaves Saw c (pass point >>= fun _ => a) goal := by
  refine .bind saw_isTrace (pass_saw point c) ?_ ?_
  · rintro _ _ c' - (⟨rfl, -⟩ | ⟨e, -, impossible⟩)
    · exact next c'
    · cases impossible
  · rintro e _ c' - (⟨-, impossible⟩ | ⟨e', rfl, same⟩)
    · cases impossible
    · cases same
      exact failed e c'

theorem isNamed_of_columnName {cell : CellWrite} {column : Bytes}
    (named : columnName cell = .ok column) : cell.IsNamed ∧ column = cell.name := by
  obtain ⟨_ | family, _ | qualifier, value, timestamp⟩ := cell
  · cases named
  · cases named
  · cases named
  · cases named
    exact ⟨⟨rfl, rfl⟩, rfl⟩

theorem fillBatch_saw (cells : List RowCell) (c : Client) :
    Leaves Saw c (fillBatch cells) fun ran trace => RowCell.Fills cells trace ran.1 := by
  induction cells generalizing c with
  | nil => exact ⟨[], saw_isTrace.refl c, List.forall_mem_nil _, rfl⟩
  | cons d rest ih =>
    rw [fillBatch]
    cases named : columnName d.cell with
    | error m =>
      refine ⟨[], saw_isTrace.refl c, ?_⟩
      exact ⟨[], d, rest, [], rfl, List.forall_mem_nil _, .nameless m named, rfl⟩
    | ok column =>
      obtain ⟨isNamed, rfl⟩ := isNamed_of_columnName named
      refine Saw.logged (a := pass .batchPut >>= fun _ => fillBatch rest) fun c₁ => ?_
      refine Saw.passing (fun c₂ => ?_) fun e c₂ => ?_
      · refine (ih c₂).mono fun trace _ fills => ?_
        rcases ran : fillBatch rest c₂ with ⟨e | ⟨⟩, c₃⟩
        · rw [ran] at fills
          obtain ⟨front, cell, back, last, rfl, others, unfilled, rfl⟩ := fills
          exact ⟨d :: front, cell, back, last, rfl, List.forall_mem_cons.mpr ⟨isNamed, others⟩,
            unfilled, rfl⟩
        · rw [ran] at fills
          obtain ⟨others, rfl⟩ := fills
          exact ⟨List.forall_mem_cons.mpr ⟨isNamed, others⟩, rfl⟩
      · exact ⟨[], d, rest, _, rfl, List.forall_mem_nil _, .refused e isNamed, rfl⟩

theorem sendRun_saw (table : String) (run : Run) (c : Client) :
    Leaves Saw c (sendRun table run) fun ran trace => run.Sends table trace ran.1 := by
  refine Saw.logged fun c₁ => Saw.passing (fun c₂ => ?_) fun e c₂ => .opening
  refine .bind_attempt saw_isTrace (fillBatch_saw run.cells c₂) ?_
  rintro (e | ⟨⟩) trace c₃ - fills
  · refine Saw.logged fun c₄ => ⟨[], saw_isTrace.refl c₄, ?_⟩
    exact .filling trace fills
  · obtain ⟨named, rfl⟩ := fills
    have whole : (run.events table).map Sum.inl = .inl (.batchOpened table run.timestamp) ::
        ((run.cells.map fun d => .inl d.filled) ++ [(.inl .batchSent : Event ⊕ Incident)]) := by
      simp [Run.events, RowCell.filled]
    refine Saw.logged fun c₄ => (pass_saw .batchSend c₄).mono ?_
    rintro _ - (⟨rfl, went⟩ | ⟨e, rfl, failed⟩)
    · rw [went]
      exact ⟨named, whole.symm⟩
    · rw [failed]
      have sent : run.Sends table _ (.error e) := .sending named
      rw [whole] at sent
      simpa using sent

theorem sendRuns_saw (table : String) (runs : List Run) (c : Client) :
    Leaves Saw c (sendRuns table runs) fun ran trace => ∃ sent rest last, runs = sent ++ rest ∧
      (∀ run ∈ sent, ∀ d ∈ run.cells, d.cell.IsNamed) ∧
      trace = (sent.flatMap (Run.events table)).map .inl ++ last ∧
      Run.Stops table rest ran.1 last := by
  induction runs generalizing c with
  | nil =>
    exact ⟨[], saw_isTrace.refl c, [], [], [], rfl, List.forall_mem_nil _, rfl, .finished⟩
  | cons run rest ih =>
    refine .bind saw_isTrace (sendRun_saw table run c) ?_ ?_
    · rintro ⟨⟩ trace c₁ - ⟨named, rfl⟩
      refine (ih c₁).mono ?_
      rintro _ - ⟨sent, left, last, rfl, others, rfl, stops⟩
      refine ⟨run :: sent, left, last, rfl, List.forall_mem_cons.mpr ⟨named, others⟩, ?_, stops⟩
      rw [List.flatMap_cons, List.map_append, List.append_assoc]
    · intro e trace c₁ _ fails
      exact ⟨[], run :: rest, trace, rfl, List.forall_mem_nil _, rfl,
        .failed run rest e trace fails⟩

/-- Batches that are all sent are logged one after the other. -/
theorem log_of_sendRuns {table : String} {runs : List Run} {c' : Client}
    (went : sendRuns table runs c = (.ok (), c')) :
    c'.store.log = c.store.log ++ runs.flatMap (Run.events table) := by
  obtain ⟨_, saw, sent, rest, last, rfl, -, rfl, stops⟩ := sendRuns_saw table runs c
  rw [went] at saw stops
  cases stops
  rw [saw.log, List.append_nil, List.append_nil, List.filterMap_map]
  exact congrArg _ List.filterMap_some

theorem fillings_events (table : String) (runs : List Run) :
    Store.fillings (runs.flatMap (Run.events table)) =
      (runs.flatMap (·.cells)).map RowCell.filling := by
  induction runs with
  | nil => rfl
  | cons run rest ih =>
    have first : Store.fillings (run.events table) = run.cells.map RowCell.filling := by
      simp [Store.fillings, Run.events, Event.filling?, RowCell.filling]
    rw [Store.fillings] at ih first ⊢
    rw [List.flatMap_cons, List.filterMap_append, ih, first, List.flatMap_cons, List.map_append]

/-- The cells of mutations go out in order, as batches that could not be fewer. Those before the
first that comes to nothing are sent, and no other one is opened. -/
theorem sendRuns_outcome (table : String) (mutations : List Mutation) (c : Client) :
    let runs := Run.ofMutations mutations
    let ran := sendRuns table runs c
    Run.Batched mutations runs ∧
      Store.fillings (runs.flatMap (Run.events table)) = mutations.flatMap (fun m =>
        m.cells.map fun cell => (m.row, cell.name, cell.value)) ∧
      (∃ sent rest last, runs = sent ++ rest ∧
        (∀ run ∈ sent, ∀ d ∈ run.cells, d.cell.IsNamed) ∧
        Saw ((sent.flatMap (Run.events table)).map .inl ++ last) c ran.2 ∧
        Run.Stops table rest ran.1 last) ∧
      (ran.1 = .ok () → ran.2.store.log = c.store.log ++ runs.flatMap (Run.events table)) ∧
      (c.store.IsReliable → (∀ m ∈ mutations, ∀ cell ∈ m.cells, cell.IsNamed) →
        ran.1 = .ok ()) := by
  intro runs ran
  have batched := Run.ofMutations_batched mutations
  refine ⟨batched, ?_, ?_, fun went => ?_, fun reliable named => ?_⟩
  · rw [fillings_events, batched.whole, Run.rowCells, List.map_flatMap]
    simp only [List.map_map]
    rfl
  · obtain ⟨_, saw, sent, rest, last, split, named, rfl, stops⟩ := sendRuns_saw table runs c
    exact ⟨sent, rest, last, split, named, saw, stops⟩
  · have done : ran = (.ok (), ran.2) := Prod.ext went rfl
    exact log_of_sendRuns done
  · have inRuns : ∀ run ∈ runs, ∀ d ∈ run.cells, d.cell.IsNamed := by
      intro run inRuns d inRun
      obtain ⟨m, inMutations, cell, inRow, rfl⟩ := Run.exists_of_mem_ofMutations inRuns inRun
      exact named m inMutations cell inRow
    obtain ⟨c', sent, -⟩ := sendRuns_ends reliable table inRuns
    exact congrArg Prod.fst sent

/-- Four cells of two rows, in a store that takes them and in one that refuses the third. -/
theorem sendRuns_outcome_third_cell :
    let cell : Option Int → CellWrite := fun t =>
      ⟨some (Utf8.ofString "f"), some (Utf8.ofString "q"), some [], t⟩
    let row := fun key : String => some (Utf8.ofString key)
    let mutations : List Mutation :=
      [⟨row "a", [cell (some 5)]⟩, ⟨row "b", []⟩, ⟨row "b", [cell (some 5), cell none]⟩,
        ⟨row "a", [cell (some 5)]⟩]
    let runs := Run.ofMutations mutations
    let service : Service := { name := "s", settings := ∅, backend := .gateway }
    let c : Client := { service, store := {}, metrics := {} }
    let fault := Fault.collaborator "IOError" "gone"
    let c' : Client := { c with store := Store.planFault {} .batchPut (some ⟨2, fault⟩) }
    let name := Utf8.ofString "f:q"
    c.store.IsReliable ∧ (∀ m ∈ mutations, ∀ cell ∈ m.cells, cell.IsNamed) ∧
      (sendRuns "t" runs c).1 = .ok () ∧ runs.map (·.cells.length) = [2, 1, 1] ∧
      (sendRuns "t" runs c).2.store.log = runs.flatMap (Run.events "t") ∧
      (∃ sent rest last, runs = sent ++ rest ∧
        (∀ run ∈ sent, ∀ d ∈ run.cells, d.cell.IsNamed) ∧
        Saw ((sent.flatMap (Run.events "t")).map .inl ++ last) c' (sendRuns "t" runs c').2 ∧
        Run.Stops "t" rest (sendRuns "t" runs c').1 last) ∧
      (sendRuns "t" runs c').2.store.log = [.batchOpened "t" (some 5),
        .batchFilled (row "a") name (some []), .batchFilled (row "b") name (some []), .batchSent,
        .batchOpened "t" none, .batchFilled (row "b") name (some []), .batchDropped "IOError"] := by
  intro cell row mutations runs service c fault c' name
  have reliable : c.store.IsReliable := fun _ _ => rfl
  have named : ∀ m ∈ mutations, ∀ cell ∈ m.cells, cell.IsNamed := by
    have each : ∀ t, (cell t).IsNamed := fun _ => ⟨rfl, rfl⟩
    simp [mutations, each]
  obtain ⟨-, -, -, logged, went⟩ := sendRuns_outcome "t" mutations c
  obtain ⟨-, -, stopped, -⟩ := sendRuns_outcome "t" mutations c'
  exact ⟨reliable, named, went reliable named, by decide, logged (went reliable named), stopped,
    rfl⟩

end Client
end WideColumn
