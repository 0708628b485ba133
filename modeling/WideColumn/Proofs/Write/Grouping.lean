import Mathlib.Data.List.Perm.Basic
import WideColumn.Proofs.Write.Batches

/-! What batching leaves of the requests. Tables and rows stand in the order in which requests first
name them, once each; the mutation of a row has the cells of all requests for it in their order, and
no cell is lost or there twice. -/
namespace WideColumn

theorem PutRequest.cells_eq (r : PutRequest) :
    r.cells = r.columns.map fun c => { c with timestamp := c.timestamp.or r.timestamp } := by
  apply List.map_congr_left
  intro c _
  cases c.timestamp <;> rfl

namespace Mutation

/-! Groups by key are a partition. -/

section Groups

variable {α γ : Type} [DecidableEq α] [BEq α] [LawfulBEq α] (key : γ → α)

theorem nodup_eraseDups (keys : List α) : keys.eraseDups.Nodup := by
  have once := nodup_grouped id (fun k => [k]) keys
  rwa [keys_grouped, List.map_id] at once

omit [BEq α] [LawfulBEq α] in
/-- The items of a list, taken by keys among which each item has its own, are those of the list. -/
theorem flatMap_filter_perm {keys : List α} (once : keys.Nodup) {items : List γ}
    (known : ∀ x ∈ items, key x ∈ keys) :
    (keys.flatMap fun k => items.filter (key · = k)).Perm items := by
  induction keys generalizing items with
  | nil =>
    have none : items = [] := by
      apply List.eq_nil_iff_forall_not_mem.mpr
      intro x member
      exact List.not_mem_nil (known x member)
    simp [none]
  | cons k rest ih =>
    obtain ⟨absent, once⟩ := List.nodup_cons.mp once
    have others : ∀ x ∈ items.filter (fun x => !decide (key x = k)), key x ∈ rest := by
      intro x member
      obtain ⟨inItems, other⟩ := List.mem_filter.mp member
      have isOther : key x ≠ k := by simpa using other
      exact List.mem_of_ne_of_mem isOther (known x inItems)
    -- No other key takes anything that has the first one, so that may be left out before.
    have apart : (rest.flatMap fun k' => items.filter (key · = k')) =
        rest.flatMap fun k' => (items.filter fun x => !decide (key x = k)).filter (key · = k') := by
      apply List.flatMap_congr
      intro k' member
      rw [List.filter_filter]
      apply List.filter_congr
      intro x _
      by_cases same : key x = k'
      · have other : k' ≠ k := by
          rintro rfl
          exact absent member
        simp [same, other]
      · simp [same]
    rw [List.flatMap_cons, apart]
    exact ((ih once others).append_left _).trans (List.filter_append_perm _ items)

/-- Items that are grouped as they are. -/
theorem entries_grouped_self (items : List γ) : (grouped key (fun x => [x]) items).entries =
    (items.map key).eraseDups.map fun k => (k, items.filter (key · = k)) := by
  rw [entries_grouped]
  simp only [List.flatMap_singleton']

theorem values_grouped_perm (items : List γ) :
    (grouped key (fun x => [x]) items).values.flatten.Perm items := by
  have listed : (grouped key (fun x => [x]) items).values.flatten =
      (items.map key).eraseDups.flatMap fun k => items.filter (key · = k) := by
    rw [OrderedMap.values, entries_grouped_self, List.map_map]
    rfl
  rw [listed]
  apply flatMap_filter_perm key (nodup_eraseDups _)
  intro x member
  exact List.mem_eraseDups.mpr (List.mem_map_of_mem member)

end Groups

/-- What the requests for a table are batched into. A cell without a timestamp takes the one of its
request; by family, the cells of a mutation are divided and keep their order. -/
structure Batches (requests : List PutRequest) (mutations : List Mutation) : Prop where
  rows : mutations.map (·.row) = (requests.map (·.row)).eraseDups
  once : (mutations.map (·.row)).Nodup
  cells : ∀ m ∈ mutations, m.cells = (requests.filter (·.row = m.row)).flatMap fun r =>
    r.columns.map fun c => { c with timestamp := c.timestamp.or r.timestamp }
  families : ∀ m ∈ mutations, m.familyCells.entries =
    (m.cells.map (·.family)).eraseDups.map fun family =>
      (family, m.cells.filter (·.family = family))
  divided : ∀ m ∈ mutations, m.familyCells.values.flatten.Perm m.cells

theorem familyCells_eq (m : Mutation) :
    m.familyCells = grouped CellWrite.family (fun cell => [cell]) m.cells := rfl

theorem batch_eq (requests : List PutRequest) : batch requests =
    (requests.map (·.row)).eraseDups.map fun row => ⟨row, PutRequest.cellsOf row requests⟩ := by
  have rows := entries_grouped PutRequest.row PutRequest.cells requests
  have unfolded : batch requests =
      (grouped PutRequest.row PutRequest.cells requests).entries.map fun e => ⟨e.1, e.2⟩ := rfl
  rw [unfolded, rows, List.map_map]
  rfl

theorem batch_batches (requests : List PutRequest) : Batches requests (batch requests) := by
  have rows : (batch requests).map (·.row) = (requests.map (·.row)).eraseDups := by
    rw [batch_eq, List.map_map]
    exact List.map_id _
  constructor
  · exact rows
  · rw [rows]
    exact nodup_eraseDups _
  · intro m member
    rw [batch_eq] at member
    obtain ⟨row, -, rfl⟩ := List.mem_map.mp member
    apply List.flatMap_congr
    intro r _
    exact r.cells_eq
  · intro m _
    rw [familyCells_eq, entries_grouped_self]
  · intro m _
    rw [familyCells_eq]
    exact values_grouped_perm CellWrite.family m.cells

/-- No cell is lost where a table is batched, and none comes in. -/
theorem cells_batch_perm (requests : List PutRequest) :
    ((batch requests).flatMap (·.cells)).Perm (requests.flatMap PutRequest.cells) := by
  have byRow : (batch requests).flatMap (·.cells) = ((requests.map (·.row)).eraseDups.flatMap
      fun row => requests.filter (·.row = row)).flatMap PutRequest.cells := by
    rw [batch_eq, List.flatMap_map, List.flatMap_assoc]
    rfl
  rw [byRow]
  apply List.Perm.flatMap_right
  apply flatMap_filter_perm PutRequest.row (nodup_eraseDups _)
  intro r member
  exact List.mem_eraseDups.mpr (List.mem_map_of_mem member)

variable {default : Option String} {requests : List PutRequest}

theorem cells_tablePuts_perm (named : ∀ r ∈ requests, (r.tableOr default).isSome) :
    ((tablePuts default requests).flatMap fun t => t.2.flatMap (·.cells)).Perm
      (requests.flatMap PutRequest.cells) := by
  let table := fun r : PutRequest => r.tableOr default
  let targets := (PutRequest.targets default requests).map some
  have once : targets.Nodup := (nodup_eraseDups _).map fun _ _ => Option.some.inj
  have known : ∀ r ∈ requests, table r ∈ targets := by
    intro r member
    obtain ⟨name, isName⟩ := Option.isSome_iff_exists.mp (named r member)
    rw [show table r = some name from isName]
    apply List.mem_map_of_mem
    exact List.mem_eraseDups.mpr (List.mem_filterMap.mpr ⟨r, member, isName⟩)
  have byTable := (flatMap_filter_perm table once known).flatMap_right PutRequest.cells
  rw [List.flatMap_map, List.flatMap_assoc] at byTable
  rw [tablePuts, List.flatMap_map]
  refine List.Perm.trans ?_ byTable
  apply List.Perm.flatMap_left
  intro name _
  exact cells_batch_perm _

/-- Requests are batched as a whole or refused as a whole. The first one without a table refuses
all of them; else the tables stand in the order of their first requests, each with what its own
requests are batched into, and all cells that are asked for are there. -/
theorem batchByTable_outcome (default : Option String) (requests : List PutRequest) :
    match requests.find? fun r => (r.tableOr default).isNone with
    | some r => batchByTable default requests = .error r.row
    | none => ∃ tables, batchByTable default requests = .ok tables ∧
      tables.keys = (requests.filterMap (·.tableOr default)).eraseDups ∧
      (∀ t ∈ tables.entries, Batches (requests.filter (·.tableOr default = some t.1)) t.2) ∧
      (tables.values.flatten.flatMap (·.cells)).Perm (requests.flatMap PutRequest.cells) ∧
      (tables.values.flatten.flatMap (·.cells)).length =
        (requests.flatMap (·.columns)).length := by
  cases found : requests.find? fun r => (r.tableOr default).isNone with
  | some r =>
    dsimp only
    rw [batchByTable, requestsByTable_refused found]
    rfl
  | none =>
    have named : ∀ r ∈ requests, (r.tableOr default).isSome := by
      intro r member
      simpa [Option.isSome_iff_ne_none] using List.find?_eq_none.mp found r member
    have values : (OrderedMap.mk (tablePuts default requests)).values.flatten.flatMap (·.cells) =
        (tablePuts default requests).flatMap fun t => t.2.flatMap (·.cells) := by
      rw [OrderedMap.values, ← List.flatMap_def, List.flatMap_assoc]
    have cells := cells_tablePuts_perm named
    rw [← values] at cells
    refine ⟨_, batchByTable_eq named, ?_, ?_, cells, ?_⟩
    · rw [OrderedMap.keys, tablePuts, List.map_map]
      exact List.map_id _
    · intro t member
      obtain ⟨name, -, rfl⟩ := List.mem_map.mp member
      exact batch_batches _
    · rw [cells.length_eq, List.length_flatMap, List.length_flatMap]
      simp only [PutRequest.cells, List.length_map]

end Mutation
end WideColumn
