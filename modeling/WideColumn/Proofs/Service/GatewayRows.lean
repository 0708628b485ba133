import WideColumn.Proofs.Read.Cells
import WideColumn.Proofs.Service.Incidents
import WideColumn.Proofs.Service.ScannerRows

/-! What a gateway scanner makes of rows. It leaves out the cells that are too old, and then the
rows that have no cells; what is left comes in order, one row for each read. -/
namespace WideColumn.Client

/-- The rows that a scanner yields until there are no more. -/
inductive Yields : Scanner → Client → List ScannedRow → Client → Prop
  | ended {s s' c c'} : readRow s c = (.ok (none, s'), c') → Yields s c [] c'
  | row {s s' c c' c'' row rows} : readRow s c = (.ok (some row, s'), c') →
      Yields s' c' rows c'' → Yields s c (row :: rows) c''

variable {s : Scanner} {c c' c'' : Client} {rows rows' : List ScannedRow}

theorem Yields.unique (h : Yields s c rows c') (h' : Yields s c rows' c'') : rows = rows' := by
  induction h generalizing rows' with
  | ended read =>
    cases h' with
    | ended => rfl
    | row read' =>
      rw [read] at read'
      cases read'
  | row read _ ih =>
    cases h' with
    | ended read' =>
      rw [read] at read'
      cases read'
    | row read' later =>
      rw [read] at read'
      cases read'
      rw [ih later]

/-- Read by read, a scanner yields what it has to give. -/
theorem yields_of_gives (gives : s.gives c.store.readFault? = (rows, none)) :
    ∃ c', Yields s c rows c' := by
  induction rows generalizing s c with
  | nil =>
    obtain ⟨events, -, gave⟩ := readRow_leaves s c
    rw [gives] at gave
    obtain ⟨-, s', outcome⟩ := gave
    have read : readRow s c = (.ok (none, s'), (readRow s c).2) := Prod.ext outcome rfl
    exact ⟨_, .ended read⟩
  | cons row rest ih =>
    obtain ⟨events, left, gave⟩ := readRow_leaves s c
    rw [gives] at gave
    obtain ⟨-, s', outcome, later⟩ := gave
    have read : readRow s c = (.ok (some row, s'), (readRow s c).2) := Prod.ext outcome rfl
    rw [← left.reads] at later
    obtain ⟨c', yields⟩ := ih later
    exact ⟨c', .row read yields⟩

/-- Where no read fails, a gateway gives the rows that have cells which are not too old. -/
theorem given_since {rows : List GatewayRow} (known : ∀ r ∈ rows, r.IsKnown) (minTimestamp : Int)
    (index : Nat) : ∃ given,
      Scanner.given .gateway (fun _ => none) (rows.map (·.since minTimestamp)) index =
        (given, none) ∧
      List.Forall₂ (GatewayRow.Shows minTimestamp)
        (rows.filter fun r => r.young minTimestamp ≠ []) given := by
  induction rows generalizing index with
  | nil => exact ⟨[], rfl, .nil⟩
  | cons r rest ih =>
    obtain ⟨first, others⟩ := List.forall_mem_cons.mp known
    obtain ⟨given, later, shows⟩ := ih others (index + 1)
    let row : ScannedRow :=
      ⟨r.key, (r.young minTimestamp).map (GatewayRow.cellOf (r.key.getD []))⟩
    have reached : Scanner.reached none (r.since minTimestamp) = .ok row := by
      rw [GatewayRow.since_eq_young first]
      rfl
    rw [List.map_cons, Scanner.given, reached, later, List.filter_cons]
    dsimp only
    by_cases filled : r.young minTimestamp ≠ []
    · have some : ¬ row.cells.isEmpty := by simpa [row] using filled
      rw [if_pos (decide_eq_true filled), if_neg fun bare => some bare.2]
      exact ⟨row :: given, rfl, .cons (GatewayRow.shows_young filled) shows⟩
    · have bare : row.cells.isEmpty := by simpa [row] using filled
      have old : ¬ decide (r.young minTimestamp ≠ []) := by simpa using filled
      rw [if_neg old, if_pos ⟨rfl, bare⟩]
      exact ⟨given, rfl, shows⟩

/-- A scanner that a gateway opens is over the rows of the store. -/
theorem openScanner_since {connection : Connection} {request : ScanRequest}
    {rows : List GatewayRow} (gateway : connection.backend = .gateway)
    (stored : c.store.rows.map StoredRow.gateway = rows.map .ok)
    (opened : openScanner connection request c = (.ok s, c')) :
    s = { backend := .gateway, remaining := rows.map (·.since request.minTimestamp) } := by
  obtain ⟨met, left, -⟩ := openScanner_fails connection request c
  rw [opened] at left
  obtain ⟨-, c₁, -, opened⟩ := Action.bind_eq_ok_iff.mp opened
  obtain ⟨s', c₂, made, opened⟩ := Action.bind_eq_ok_iff.mp opened
  obtain ⟨⟨⟩, c₃, noted, last⟩ := Action.bind_eq_ok_iff.mp opened
  cases noted
  cases last
  rw [makeScanner, gateway] at made
  obtain ⟨-, c₄, -, made⟩ := Action.bind_eq_ok_iff.mp made
  obtain ⟨order, c₅, -, made⟩ := Action.bind_eq_ok_iff.mp made
  obtain ⟨-, c₆, -, made⟩ := Action.bind_eq_ok_iff.mp made
  obtain ⟨-, c₇, -, made⟩ := Action.bind_eq_ok_iff.mp made
  cases made
  have kept : c₂.store.rows = c.store.rows := left.rows
  have read : (fun r : StoredRow => do (← r.gateway).since request.minTimestamp) =
      (fun r => r >>= (·.since request.minTimestamp)) ∘ StoredRow.gateway := rfl
  rw [kept, read, ← List.map_map, stored, List.map_map]
  rfl

/-- A scanner over the rows of a gateway, where no read fails, comes to their end. It yields those
rows that have cells not older than the timestamp, each with just these cells. A scan of a store
with these rows opens such a scanner. -/
theorem yields_young {rows : List GatewayRow} (known : ∀ r ∈ rows, r.IsKnown) (minTimestamp : Int)
    (unplanned : c.store.plan .read = none) :
    let s : Scanner := { backend := .gateway, remaining := rows.map (·.since minTimestamp) }
    (∃ yielded c', Yields s c yielded c') ∧
      (∀ yielded c', Yields s c yielded c' → List.Forall₂ (GatewayRow.Shows minTimestamp)
        (rows.filter fun r => r.columns.entries.any fun e => minTimestamp ≤ e.2.2) yielded) ∧
      ∀ connection request c₀ opened c₁, connection.backend = .gateway →
        request.minTimestamp = minTimestamp →
        c₀.store.rows.map StoredRow.gateway = rows.map .ok →
        openScanner connection request c₀ = (.ok opened, c₁) → opened = s := by
  intro s
  have never : c.store.readFault? = fun _ => none := by
    funext index
    rw [Store.readFault?, unplanned]
  obtain ⟨given, gives, shows⟩ := given_since known minTimestamp 0
  obtain ⟨c₁, yields⟩ := @yields_of_gives s c given (by rw [never]; exact gives)
  have some (r : GatewayRow) : decide (r.young minTimestamp ≠ []) =
      r.columns.entries.any fun e => minTimestamp ≤ e.2.2 := by
    rw [GatewayRow.young, Bool.eq_iff_iff]
    simp
  refine ⟨⟨given, c₁, yields⟩, fun yielded c' yields' => ?_, ?_⟩
  · simp only [some] at shows
    rw [yields'.unique yields]
    exact shows
  · rintro connection request c₀ opened c₁ gateway rfl stored open'
    exact openScanner_since gateway stored open'

/-- Rows with cells that are just not too old and just too old, and with names of columns that have
no colon, one or two. -/
theorem yields_young_boundary :
    let bytes := Utf8.ofString
    let entry := fun (column : String) (timestamp : Int) =>
      (some (bytes column), some (bytes "v"), timestamp)
    let first : GatewayRow := ⟨some (bytes "a"), ⟨[entry "f:q" 5, entry "f:r" 4]⟩⟩
    let old : GatewayRow := ⟨some (bytes "b"), ⟨[entry "f:q" 4]⟩⟩
    let last : GatewayRow :=
      ⟨some (bytes "c"), ⟨[entry "f" 5, entry "f:" 6, entry "f:q:r" 7, entry ":q" 8]⟩⟩
    let c : Client :=
      { service := { name := "s", settings := ∅, backend := .gateway }, store := {}, metrics := {} }
    let rows := [first, old, last]
    (∀ r ∈ rows, r.IsKnown) ∧ c.store.plan .read = none ∧ ∃ yielded c',
      Yields { backend := .gateway, remaining := rows.map (·.since 5) } c yielded c' ∧
      List.Forall₂ (GatewayRow.Shows 5) [first, last] yielded ∧
      (yielded.map fun row => row.cells.map fun c => (c.family.bytes, c.qualifier.bytes)) =
        [[(bytes "f", bytes "q")],
          [(bytes "f", []), (bytes "f", []), (bytes "f", bytes "q:r"), ([], bytes "q")]] := by
  intro bytes entry first old last c rows
  have known : ∀ r ∈ rows, r.IsKnown := by
    have each (key : String) (entries : List (String × Int)) :
        GatewayRow.IsKnown ⟨some (bytes key), ⟨entries.map fun e => entry e.1 e.2⟩⟩ := by
      constructor
      · rfl
      · exact List.forall_mem_map.mpr fun _ _ => ⟨rfl, rfl⟩
    intro r member
    simp only [rows, List.mem_cons, List.not_mem_nil, or_false] at member
    rcases member with rfl | rfl | rfl
    · exact each "a" [("f:q", 5), ("f:r", 4)]
    · exact each "b" [("f:q", 4)]
    · exact each "c" [("f", 5), ("f:", 6), ("f:q:r", 7), (":q", 8)]
  obtain ⟨-, shows, -⟩ := @yields_young c rows known 5 rfl
  let s : Scanner := { backend := .gateway, remaining := rows.map (·.since 5) }
  have gives : s.gives c.store.readFault? = ((s.gives fun _ => none).1, none) := rfl
  obtain ⟨c', yields⟩ := yields_of_gives gives
  refine ⟨known, rfl, _, c', yields, shows _ _ yields, ?_⟩
  decide +kernel

end WideColumn.Client
