import Mathlib.Data.List.Induction
import WideColumn.Proofs.OrderedMap
import WideColumn.Write.Request

/-! Batches of requests. Whatever is batched together, every row gets the cells of its requests in
the order of the requests. -/
namespace WideColumn

/-- The cells of a row among mutations. -/
def Mutation.cellsOf (row : Option Bytes) (mutations : List Mutation) : List CellWrite :=
  (mutations.filter (·.row = row)).flatMap (·.cells)

/-- The tables that requests go to, in the order of their first requests. -/
def PutRequest.targets (default : Option String) (requests : List PutRequest) : List String :=
  (requests.filterMap (·.tableOr default)).eraseDups

/-- The cells of a row among requests. -/
def PutRequest.cellsOf (row : Option Bytes) (requests : List PutRequest) : List CellWrite :=
  (requests.filter (·.row = row)).flatMap PutRequest.cells

theorem PutRequest.cellsOf_self (r : PutRequest) : cellsOf r.row [r] = r.cells := by
  simp [cellsOf]

theorem PutRequest.cellsOf_append (row : Option Bytes) (requests more : List PutRequest) :
    cellsOf row (requests ++ more) = cellsOf row requests ++ cellsOf row more := by
  rw [cellsOf, List.filter_append, List.flatMap_append]
  rfl

namespace Mutation

/-! Groups of values by key. -/

variable {α β γ : Type} [DecidableEq α] (key : γ → α) (values : γ → List β)

theorem get?_addToGroup (groups : OrderedMap α (List β)) (key other : α) (values : List β) :
    ((addToGroup groups key values).get? other).getD [] =
      (groups.get? other).getD [] ++ if key = other then values else [] := by
  rw [addToGroup, OrderedMap.alter, OrderedMap.get?_insert]
  split
  · next same => rw [same, Option.getD_some]
  · rw [List.append_nil]

/-- The values that items give, by the keys of the items. -/
def grouped (items : List γ) : OrderedMap α (List β) :=
  items.foldl (fun groups x => addToGroup groups (key x) (values x)) ∅

theorem grouped_concat (items : List γ) (x : γ) :
    grouped key values (items ++ [x]) = addToGroup (grouped key values items) (key x) (values x) :=
  List.foldl_append

theorem nodup_grouped (items : List γ) : (grouped key values items).keys.Nodup := by
  induction items using List.reverseRecOn with
  | nil => exact List.nodup_nil
  | append_singleton items x ih =>
    rw [grouped_concat]
    exact OrderedMap.nodup_keys_insert ih _ _

theorem keys_grouped [BEq α] [LawfulBEq α] (items : List γ) :
    (grouped key values items).keys = (items.map key).eraseDups := by
  induction items using List.reverseRecOn with
  | nil => rfl
  | append_singleton items x ih =>
    rw [grouped_concat, addToGroup, OrderedMap.alter, OrderedMap.keys_insert, ih, List.map_append,
      List.eraseDups_append, List.map_singleton, List.removeAll, List.filter_singleton,
      List.elem_eq_contains, List.contains_eq_mem]
    by_cases known : key x ∈ items.map key
    · rw [if_pos (List.mem_eraseDups.mpr known)]
      simp only [known]
      exact (List.append_nil _).symm
    · rw [if_neg (mt List.mem_eraseDups.mp known)]
      simp only [known]
      rfl

theorem mem_keys_grouped {items : List γ} {k : α} :
    k ∈ (grouped key values items).keys ↔ k ∈ items.map key := by
  rw [keys_grouped, List.mem_eraseDups]

theorem get?_grouped (items : List γ) (k : α) : ((grouped key values items).get? k).getD [] =
    (items.filter (key · = k)).flatMap values := by
  induction items using List.reverseRecOn with
  | nil => rfl
  | append_singleton items x ih =>
    rw [grouped_concat, get?_addToGroup, ih, List.filter_append, List.flatMap_append]
    by_cases same : key x = k <;> simp [same]

/-- The keys stand in the order of their first items, each with the values of its items. -/
theorem entries_grouped [BEq α] [LawfulBEq α] (items : List γ) :
    (grouped key values items).entries =
      (items.map key).eraseDups.map fun k => (k, (items.filter (key · = k)).flatMap values) := by
  rw [OrderedMap.entries_eq (nodup_grouped key values items) [], keys_grouped]
  exact List.map_congr_left fun k _ => congrArg (Prod.mk k) (get?_grouped key values items k)

/-- The mutation of a row has the cells of all its requests. -/
theorem cellsOf_batch (requests : List PutRequest) (row : Option Bytes) :
    cellsOf row (batch requests) = PutRequest.cellsOf row requests := by
  have once := nodup_grouped PutRequest.row PutRequest.cells requests
  have ofRow := get?_grouped PutRequest.row PutRequest.cells requests row
  simp only [grouped] at once ofRow
  rw [PutRequest.cellsOf, ← ofRow, cellsOf, batch, List.filter_map, List.flatMap_map]
  change (List.filter (fun e : Option Bytes × List CellWrite => e.1 = row) _).flatMap
    (fun e => e.2) = (OrderedMap.find? row _).getD []
  rw [OrderedMap.filter_key once row]
  cases OrderedMap.find? row _ with
  | none => rfl
  | some cells => exact List.append_nil cells

/-- Every cell of a mutation is the cell of a request. -/
theorem exists_of_mem_batch {requests : List PutRequest} {m : Mutation}
    (member : m ∈ batch requests) {cell : CellWrite} (inRow : cell ∈ m.cells) :
    ∃ r ∈ requests, cell ∈ r.cells := by
  have inRows : cell ∈ cellsOf m.row (batch requests) :=
    List.mem_flatMap.mpr ⟨m, List.mem_filter.mpr ⟨member, decide_eq_true rfl⟩, inRow⟩
  rw [cellsOf_batch] at inRows
  obtain ⟨r, ofRow, inRequest⟩ := List.mem_flatMap.mp inRows
  exact ⟨r, (List.mem_filter.mp ofRow).1, inRequest⟩

variable {default : Option String} {requests : List PutRequest}

theorem foldlM_targets {target : PutRequest → String}
    (isTarget : ∀ r ∈ requests, r.tableOr default = some (target r))
    (groups : OrderedMap String (List PutRequest)) :
    requests.foldlM (fun groups r =>
      match r.tableOr default with
      | some table => Except.ok (addToGroup groups table [r])
      | none => Except.error r.row) groups =
    .ok (requests.foldl (fun groups r => addToGroup groups (target r) [r]) groups) := by
  induction requests generalizing groups with
  | nil => rfl
  | cons r rest ih =>
    obtain ⟨first, others⟩ := List.forall_mem_cons.mp isTarget
    rw [List.foldlM_cons, first]
    exact ih others _

/-- Requests that all have a table, by their tables. -/
theorem requestsByTable_eq (named : ∀ r ∈ requests, (r.tableOr default).isSome) :
    requestsByTable default requests = .ok ⟨(PutRequest.targets default requests).map fun table =>
      (table, requests.filter (·.tableOr default = some table))⟩ := by
  let target := fun r : PutRequest => (r.tableOr default).getD ""
  have isTarget : ∀ r ∈ requests, r.tableOr default = some (target r) := fun r member =>
    (Option.some_get (named r member)).symm.trans (congrArg some (Option.get_eq_getD ..))
  have tables : requests.map target = requests.filterMap (·.tableOr default) := by
    rw [← List.filterMap_eq_map]
    exact List.filterMap_congr fun r member => (isTarget r member).symm
  have ofTable (table : String) : (requests.filter (target · = table)).flatMap (fun r => [r]) =
      requests.filter (·.tableOr default = some table) := by
    rw [List.flatMap_singleton']
    refine List.filter_congr fun r member => ?_
    simp only [isTarget r member, Option.some.injEq]
  have entries := entries_grouped target (fun r => [r]) requests
  rw [tables] at entries
  refine (foldlM_targets isTarget ∅).trans ?_
  refine congrArg (fun entries => Except.ok (OrderedMap.mk entries)) (entries.trans ?_)
  exact List.map_congr_left fun table _ => congrArg (Prod.mk table) (ofTable table)

/-- The first request without a table refuses all of them. -/
theorem requestsByTable_refused {r : PutRequest}
    (first : requests.find? (fun r => (r.tableOr default).isNone) = some r) :
    requestsByTable default requests = .error r.row := by
  rw [requestsByTable]
  generalize (∅ : OrderedMap String (List PutRequest)) = groups
  induction requests generalizing groups with
  | nil => cases first
  | cons q rest ih =>
    rw [List.find?_cons] at first
    rw [List.foldlM_cons]
    cases target : q.tableOr default with
    | none =>
      rw [target] at first
      cases first
      rfl
    | some table =>
      rw [target] at first
      exact ih first _

theorem requestsByTable_error (missing : ∃ r ∈ requests, r.tableOr default = none) :
    ∃ r ∈ requests, r.tableOr default = none ∧
      requestsByTable default requests = .error r.row := by
  obtain ⟨q, member, nameless⟩ := missing
  have some : (requests.find? fun r => (r.tableOr default).isNone).isSome :=
    List.find?_isSome.mpr ⟨q, member, Option.isNone_iff_eq_none.mpr nameless⟩
  obtain ⟨r, first⟩ := Option.isSome_iff_exists.mp some
  have isNameless := List.find?_some first
  exact ⟨r, List.mem_of_find?_eq_some first, Option.isNone_iff_eq_none.mp isNameless,
    requestsByTable_refused first⟩

/-- What is put into each table. -/
def tablePuts (default : Option String) (requests : List PutRequest) :
    List (String × List Mutation) :=
  (PutRequest.targets default requests).map fun table =>
    (table, batch (requests.filter (·.tableOr default = some table)))

theorem batchByTable_eq (named : ∀ r ∈ requests, (r.tableOr default).isSome) :
    batchByTable default requests = .ok ⟨tablePuts default requests⟩ := by
  rw [batchByTable, requestsByTable_eq named]
  refine congrArg (fun entries => Except.ok (OrderedMap.mk entries)) ?_
  rw [List.map_map]
  rfl

/-- Requests for one table make one put. -/
theorem batchByTable_same {table : String} (filled : requests ≠ [])
    (same : ∀ r ∈ requests, r.tableOr default = some table) :
    batchByTable default requests = .ok ⟨[(table, batch requests)]⟩ := by
  have named : ∀ r ∈ requests, (r.tableOr default).isSome := fun r member =>
    Option.isSome_iff_exists.mpr ⟨table, same r member⟩
  have all : requests.filter (·.tableOr default = some table) = requests :=
    List.filter_eq_self.mpr fun r member => decide_eq_true (same r member)
  have once : PutRequest.targets default requests = [table] := by
    obtain ⟨r, rest, rfl⟩ := List.exists_cons_of_ne_nil filled
    obtain ⟨first, others⟩ := List.forall_mem_cons.mp same
    have none : (rest.filterMap (·.tableOr default)).filter (fun t => !t == table) = [] := by
      refine List.filter_eq_nil_iff.mpr fun t member => ?_
      obtain ⟨q, inRest, isTable⟩ := List.mem_filterMap.mp member
      obtain rfl : table = t := Option.some.inj ((others q inRest).symm.trans isTable)
      simp
    rw [PutRequest.targets, List.filterMap_cons, first]
    dsimp only
    rw [List.eraseDups_cons, none]
    rfl
  rw [batchByTable_eq named, tablePuts, once, List.map_singleton, all]

end Mutation
end WideColumn
