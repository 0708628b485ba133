import Mathlib.Data.List.Chain
import WideColumn.Proofs.Write.Batches
import WideColumn.Write.Runs

/-! Cells in runs. Cutting a list of cells into its runs of equal timestamps neither loses nor moves
a cell, and there are no fewer parts with one timestamp each that the list could be cut into. -/
namespace WideColumn.Run

variable {cells : List RowCell} {runs : List Run}

/-- Runs that a list of cells is cut into. None of them could go on. -/
structure Cut (cells : List RowCell) (runs : List Run) : Prop where
  whole : runs.flatMap (·.cells) = cells
  filled : ∀ run ∈ runs, run.cells ≠ []
  uniform : ∀ run ∈ runs, ∀ c ∈ run.cells, c.cell.timestamp = run.timestamp
  apart : (runs.map (·.timestamp)).IsChain (· ≠ ·)

theorem Cut.cons (h : Cut cells runs) (cell : RowCell) :
    Cut (cell :: cells) (Run.cons cell runs) := by
  have alone : ∀ c ∈ [cell], c.cell.timestamp = cell.cell.timestamp :=
    List.forall_mem_singleton.mpr rfl
  have single : ∀ run ∈ [Run.mk cell.cell.timestamp [cell]], run.cells ≠ [] := by simp
  cases runs with
  | nil =>
    constructor
    · rw [← h.whole]
      rfl
    · exact single
    · exact List.forall_mem_singleton.mpr alone
    · exact List.isChain_singleton _
  | cons run rest =>
    obtain ⟨filled, others⟩ := List.forall_mem_cons.mp h.filled
    obtain ⟨uniform, uniforms⟩ := List.forall_mem_cons.mp h.uniform
    by_cases same : cell.cell.timestamp = run.timestamp
    · rw [Run.cons, if_pos same]
      constructor
      · rw [← h.whole]
        rfl
      · exact List.forall_mem_cons.mpr ⟨List.cons_ne_nil _ _, others⟩
      · exact List.forall_mem_cons.mpr ⟨List.forall_mem_cons.mpr ⟨same, uniform⟩, uniforms⟩
      · exact h.apart
    · rw [Run.cons, if_neg same]
      constructor
      · rw [← h.whole]
        rfl
      · exact List.forall_mem_cons.mpr ⟨List.cons_ne_nil _ _, h.filled⟩
      · exact List.forall_mem_cons.mpr ⟨alone, h.uniform⟩
      · exact List.isChain_cons_cons.mpr ⟨same, h.apart⟩

theorem split_cons (cell : RowCell) (cells : List RowCell) :
    split (cell :: cells) = Run.cons cell (split cells) := rfl

theorem split_cut (cells : List RowCell) : Cut cells (split cells) := by
  induction cells with
  | nil => exact ⟨rfl, List.forall_mem_nil _, List.forall_mem_nil _, List.isChain_nil⟩
  | cons cell rest ih => exact ih.cons cell

/-- A list that begins with cells of one timestamp begins with a run that has all of them. -/
theorem split_begins {t : Option Int} (filled : cells ≠ [])
    (uniform : ∀ c ∈ cells, c.cell.timestamp = t) (after : List RowCell) :
    ∃ back later, split (cells ++ after) = ⟨t, cells ++ back⟩ :: later := by
  induction cells with
  | nil => exact absurd rfl filled
  | cons cell rest ih =>
    obtain ⟨first, others⟩ := List.forall_mem_cons.mp uniform
    cases rest with
    | nil =>
      rw [List.singleton_append, split_cons]
      cases split after with
      | nil =>
        refine ⟨[], [], ?_⟩
        rw [Run.cons, first]
        rfl
      | cons run later =>
        by_cases same : cell.cell.timestamp = run.timestamp
        · refine ⟨run.cells, later, ?_⟩
          rw [Run.cons, if_pos same, ← same, first]
          rfl
        · refine ⟨[], run :: later, ?_⟩
          rw [Run.cons, if_neg same, first]
          rfl
    | cons next more =>
      obtain ⟨back, later, begins⟩ := ih (List.cons_ne_nil next more) others
      refine ⟨back, later, ?_⟩
      rw [List.cons_append, split_cons, begins, Run.cons, if_pos first]
      rfl

/-! The number of runs. -/

theorem length_cons_le (cell : RowCell) (runs : List Run) :
    (Run.cons cell runs).length ≤ runs.length + 1 := by
  cases runs with
  | nil => simp [Run.cons]
  | cons run rest =>
    rw [Run.cons]
    split <;> simp

/-- Cells with one timestamp make one run more at most. -/
theorem length_split_append {group : List RowCell} {t : Option Int}
    (uniform : ∀ c ∈ group, c.cell.timestamp = t) (cells : List RowCell) :
    (split (group ++ cells)).length ≤ (split cells).length + 1 := by
  induction group with
  | nil => simp
  | cons cell rest ih =>
    obtain ⟨first, others⟩ := List.forall_mem_cons.mp uniform
    -- The last of these cells may open a run; any other one joins the run of the next.
    cases rest with
    | nil => exact length_cons_le cell (split cells)
    | cons next more =>
      obtain ⟨back, later, begins⟩ := split_begins (List.cons_ne_nil next more) others cells
      have joined : (split (cell :: next :: more ++ cells)).length =
          (split (next :: more ++ cells)).length := by
        rw [List.cons_append, split_cons, begins, Run.cons, if_pos first]
        rfl
      rw [joined]
      exact ih others

theorem length_split_flatten {groups : List (List RowCell)}
    (uniform : ∀ group ∈ groups, ∃ t, ∀ c ∈ group, c.cell.timestamp = t) :
    (split groups.flatten).length ≤ groups.length := by
  induction groups with
  | nil => exact Nat.le_refl 0
  | cons group rest ih =>
    obtain ⟨⟨t, first⟩, others⟩ := List.forall_mem_cons.mp uniform
    exact (length_split_append first rest.flatten).trans (Nat.succ_le_succ (ih others))

/-! Cells that stay together. -/

/-- Where cells stand in the runs of a list in which others come before them. -/
def Together (before cells : List RowCell) (runs : List Run) : Prop :=
  ∃ earlier run later front back, runs = earlier ++ run :: later ∧
    run.cells = front ++ cells ++ back ∧ earlier.flatMap (·.cells) ++ front = before

/-- One more cell before leaves them together. -/
theorem Together.cons {before : List RowCell} (h : Together before cells runs) (cell : RowCell) :
    Together (cell :: before) cells (Run.cons cell runs) := by
  obtain ⟨earlier, run, later, front, back, rfl, inRun, place⟩ := h
  subst place
  cases earlier with
  | nil =>
    by_cases same : cell.cell.timestamp = run.timestamp
    · refine ⟨[], ⟨run.timestamp, cell :: run.cells⟩, later, cell :: front, back, ?_, ?_, rfl⟩
      · exact if_pos same
      · rw [inRun]
        rfl
    · exact ⟨[⟨cell.cell.timestamp, [cell]⟩], run, later, front, back, if_neg same, inRun, rfl⟩
  | cons first more =>
    by_cases same : cell.cell.timestamp = first.timestamp
    · exact ⟨⟨first.timestamp, cell :: first.cells⟩ :: more, run, later, front, back,
        if_pos same, inRun, rfl⟩
    · exact ⟨⟨cell.cell.timestamp, [cell]⟩ :: first :: more, run, later, front, back,
        if_neg same, inRun, rfl⟩

theorem split_together {t : Option Int} (filled : cells ≠ [])
    (uniform : ∀ c ∈ cells, c.cell.timestamp = t) (before after : List RowCell) :
    Together before cells (split (before ++ (cells ++ after))) := by
  induction before with
  | nil =>
    obtain ⟨back, later, begins⟩ := split_begins filled uniform after
    exact ⟨[], ⟨t, cells ++ back⟩, later, [], back, begins, rfl, rfl⟩
  | cons cell rest ih => exact ih.cons cell

/-! The cells of mutations. -/

/-- The cells of a row are those of the mutations for it. -/
theorem rowCells_row (mutations : List Mutation) (row : Option Bytes) :
    (rowCells mutations).filter (·.row = row) =
      (Mutation.cellsOf row mutations).map (RowCell.mk row) := by
  induction mutations with
  | nil => rfl
  | cons m rest ih =>
    have step : rowCells (m :: rest) = m.cells.map (RowCell.mk m.row) ++ rowCells rest := rfl
    rw [step, List.filter_append, ih, Mutation.cellsOf, Mutation.cellsOf, List.filter_cons]
    by_cases same : m.row = row
    · simp [same, List.filter_map, Function.comp_def]
    · simp [same, List.filter_map, Function.comp_def]

theorem rowCells_filled (mutations : List Mutation) :
    rowCells (mutations.filter fun m => m.cells ≠ []) = rowCells mutations := by
  induction mutations with
  | nil => rfl
  | cons m rest ih =>
    rw [List.filter_cons]
    by_cases filled : m.cells ≠ []
    · rw [if_pos (decide_eq_true filled)]
      exact congrArg (m.cells.map (RowCell.mk m.row) ++ ·) ih
    · have none : m.cells = [] := not_not.mp filled
      simp only [filled, decide_false, Bool.false_eq_true, if_false]
      rw [ih, rowCells, rowCells, List.flatMap_cons, none]
      rfl

/-- The batches of mutations. None of them could be spared, mutations without cells have no part in
them, and the cells of a mutation go out in one of them if they have one timestamp. -/
structure Batched (mutations : List Mutation) (runs : List Run) : Prop
    extends Cut (rowCells mutations) runs where
  fewest : ∀ groups : List (List RowCell), groups.flatten = rowCells mutations →
    (∀ group ∈ groups, ∃ t, ∀ c ∈ group, c.cell.timestamp = t) → runs.length ≤ groups.length
  together : ∀ before m after, mutations = before ++ m :: after → m.cells ≠ [] →
    (∃ t, ∀ cell ∈ m.cells, cell.timestamp = t) →
    Together (rowCells before) (m.cells.map (RowCell.mk m.row)) runs
  skipped : ofMutations (mutations.filter fun m => m.cells ≠ []) = runs

theorem ofMutations_batched (mutations : List Mutation) :
    Batched mutations (ofMutations mutations) := by
  refine ⟨split_cut (rowCells mutations), ?_, ?_, ?_⟩
  · intro groups whole uniform
    rw [ofMutations, ← whole]
    exact length_split_flatten uniform
  · rintro before m after rfl filled ⟨t, uniform⟩
    have whole : rowCells (before ++ m :: after) =
        rowCells before ++ (m.cells.map (RowCell.mk m.row) ++ rowCells after) :=
      List.flatMap_append
    rw [ofMutations, whole]
    have some : m.cells.map (RowCell.mk m.row) ≠ [] := List.map_eq_nil_iff.not.mpr filled
    have one : ∀ c ∈ m.cells.map (RowCell.mk m.row), c.cell.timestamp = t :=
      List.forall_mem_map.mpr uniform
    exact split_together some one (rowCells before) (rowCells after)
  · rw [ofMutations, rowCells_filled]
    rfl

theorem exists_of_mem_ofMutations {mutations : List Mutation} {run : Run} {c : RowCell}
    (inRuns : run ∈ ofMutations mutations) (inRun : c ∈ run.cells) :
    ∃ m ∈ mutations, ∃ cell ∈ m.cells, c = ⟨m.row, cell⟩ := by
  have member : c ∈ rowCells mutations := by
    rw [← (split_cut (rowCells mutations)).whole]
    exact List.mem_flatMap.mpr ⟨run, inRuns, inRun⟩
  obtain ⟨m, inMutations, inMutation⟩ := List.mem_flatMap.mp member
  obtain ⟨cell, inRow, same⟩ := List.mem_map.mp inMutation
  exact ⟨m, inMutations, cell, inRow, same.symm⟩

end WideColumn.Run
