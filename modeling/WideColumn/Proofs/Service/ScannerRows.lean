import WideColumn.Proofs.Service.Connection
import WideColumn.Service.Scan

/-! What a scanner has to give: rows, and then the end or a fault. Every read of it gives the first
of what is left, and reading and closing it change nothing of that. -/
namespace WideColumn

open Store (Event)
open WideColumn.Action (Leaves)

namespace Scanner

/-- What comes of a row that is reached, with the fault that is planned for this read. -/
def reached (fault : Option Fault) (row : Except Mismatch ScannedRow) : Except Fault ScannedRow :=
  match fault with
  | some e => .error e
  | none => row.mapError .mismatch

/-- The rows that are given from a list on, and the fault after them, if there is one. A gateway
passes over rows without cells. -/
def given (backend : Backend) (fault? : Nat → Option Fault) :
    List (Except Mismatch ScannedRow) → Nat → List ScannedRow × Option Fault
  | [], index => ([], fault? index)
  | row :: rest, index =>
    match reached (fault? index) row with
    | .error e => ([], some e)
    | .ok row =>
      let later := given backend fault? rest (index + 1)
      if backend = .gateway ∧ row.cells.isEmpty then later else (row :: later.1, later.2)

/-- What an open scanner gives, where the reads of some numbers fail. -/
def gives (s : Scanner) (fault? : Nat → Option Fault) : List ScannedRow × Option Fault :=
  given s.backend fault? s.remaining s.index

theorem length_given (backend : Backend) (fault? : Nat → Option Fault)
    (rows : List (Except Mismatch ScannedRow)) (index : Nat) :
    (given backend fault? rows index).1.length ≤ rows.length := by
  fun_induction given backend fault? rows index with
  | case1 => exact Nat.le_refl _
  | case2 => exact Nat.zero_le _
  | case3 _ _ _ _ _ _ _ ih => exact Nat.le_succ_of_le ih
  | case4 _ _ _ _ _ _ _ ih => exact Nat.succ_le_succ ih

/-- A scanner of a store has some rows to give, or fails once a number of them has been given. -/
structure Gives (s : Scanner) (store : Store) (rows : List ScannedRow)
    (failing : Option (Nat × Fault)) : Prop where
  within : ∀ f e, failing = some (f, e) → f ≤ rows.length
  given : s.gives store.readFault? =
    failing.elim (rows, none) fun failing => (rows.take failing.1, some failing.2)

theorem given_of_fault {backend : Backend} {fault? : Nat → Option Fault} {index : Nat} {e : Fault}
    (fails : fault? index = some e) (rows : List (Except Mismatch ScannedRow)) :
    given backend fault? rows index = ([], some e) := by
  cases rows with
  | nil => rw [given, fails]
  | cons row rest => rw [given, fails, reached]

/-- Without a gateway, every row is given whose read does not fail. -/
theorem given_append {fault? : Nat → Option Fault} {rows : List ScannedRow} {index : Nat}
    (succeed : ∀ i < rows.length, fault? (index + i) = none)
    (rest : List (Except Mismatch ScannedRow)) :
    given .direct fault? (rows.map .ok ++ rest) index =
      (given .direct fault? rest (index + rows.length)).map (rows ++ ·) id := by
  induction rows generalizing index with
  | nil => rfl
  | cons row more ih =>
    have later := @ih (index + 1) fun i inside => by
      rw [Nat.add_right_comm, Nat.add_assoc]
      exact succeed (i + 1) (Nat.succ_lt_succ inside)
    have first : fault? index = none := succeed 0 (Nat.zero_lt_succ _)
    rw [List.map_cons, List.cons_append, given, first, later, List.length_cons,
      Nat.add_right_comm index 1, Nat.add_assoc]
    rfl

/-- A scanner that is not one of a gateway gives all rows of a list, or those before a read for
which a fault is planned. -/
theorem gives_direct {store : Store} {rows : List ScannedRow} {failing : Option (Nat × Fault)}
    (within : ∀ f e, failing = some (f, e) → f ≤ rows.length)
    (planned : store.plan .read = failing.map fun failing => ⟨failing.1, failing.2⟩) :
    Gives { backend := .direct, remaining := rows.map .ok } store rows failing := by
  refine ⟨within, ?_⟩
  rw [gives]
  cases failing with
  | none =>
    have never : store.readFault? = fun _ => none := by
      funext index
      rw [Store.readFault?, planned]
      rfl
    have all := @given_append store.readFault? rows 0 (fun i _ => congrFun never _) []
    rw [List.append_nil, given, never] at all
    rw [never, all]
    simp
  | some failing =>
    obtain ⟨f, e⟩ := failing
    have fault (index : Nat) : store.readFault? index = if f ≤ index then some e else none := by
      rw [Store.readFault?, planned]
      rfl
    have split : rows.map Except.ok = (rows.take f).map Except.ok ++
        ((rows.drop f).map Except.ok : List (Except Mismatch ScannedRow)) := by
      rw [← List.map_append, List.take_append_drop]
    have taken : (rows.take f).length = f := List.length_take_of_le (within f e rfl)
    have fails : store.readFault? (0 + (rows.take f).length) = some e := by
      rw [taken, Nat.zero_add, fault, if_pos (Nat.le_refl f)]
    dsimp only
    rw [split, given_append, given_of_fault fails]
    · simp
    · intro i inside
      rw [fault, if_neg]
      omega

end Scanner

namespace Client

/-- A client after events have been logged, and nothing has been counted. -/
structure Logged (events : List Event) (c c' : Client) : Prop where
  metrics : c'.metrics = c.metrics
  log : c'.store.log = c.store.log ++ events

/-- A client for which the same faults are planned as before. -/
structure Steady (events : List Event) (c c' : Client) : Prop extends Logged events c c' where
  plan : c'.store.plan = c.store.plan

variable {events more : List Event} {c c' c'' : Client}

theorem Logged.refl (c : Client) : Logged [] c c := ⟨rfl, (List.append_nil _).symm⟩

theorem Logged.trans (first : Logged events c c') (second : Logged more c' c'') :
    Logged (events ++ more) c c'' where
  metrics := second.metrics.trans first.metrics
  log := by rw [second.log, first.log, List.append_assoc]

theorem Steady.refl (c : Client) : Steady [] c c := ⟨.refl c, rfl⟩

theorem Steady.trans (first : Steady events c c') (second : Steady more c' c'') :
    Steady (events ++ more) c c'' :=
  ⟨first.toLogged.trans second.toLogged, second.plan.trans first.plan⟩

theorem Steady.reads (h : Steady events c c') : c'.store.readFault? = c.store.readFault? := by
  funext index
  rw [Store.readFault?, Store.readFault?, h.plan]

theorem steady_isTrace : Action.IsTrace Steady := ⟨.refl, .trans⟩

/-- An event of a scanner that is closed or ended. -/
def IsClosing (e : Event) : Prop := e = .scannerClosed ∨ e = .gatewayScanClosed

theorem checkRead_of_none {index : Nat} (found : c.store.readFault? index = none) :
    checkRead index c = (.ok (), c) := by
  unfold checkRead
  rw [Action.get_bind, found]
  rfl

theorem checkRead_of_some {index : Nat} {e : Fault} (found : c.store.readFault? index = some e) :
    checkRead index c = (.error e, { c with store := c.store.meet ⟨.point .read, e⟩ }) := by
  unfold checkRead
  rw [Action.get_bind, found]
  rfl

theorem reach_leaves (index : Nat) (row : Except Mismatch ScannedRow) (c : Client) :
    Leaves Steady c (reach index row) fun ran events =>
      events = [] ∧ ran.1 = Scanner.reached (c.store.readFault? index) row := by
  unfold reach Leaves
  cases found : c.store.readFault? index with
  | none =>
    rw [Action.bind_of_ok (checkRead_of_none found), Action.ofExcept_eq]
    exact ⟨[], .refl c, rfl, rfl⟩
  | some e =>
    rw [Action.bind_of_error (checkRead_of_some found)]
    exact ⟨[], ⟨⟨rfl, (List.append_nil _).symm⟩, rfl⟩, rfl, rfl⟩

/-- What a read comes to, by what the scanner has given up to then. -/
def Gave (fault? : Nat → Option Fault) (outcome : Except Fault (Option ScannedRow × Scanner))
    (events : List Event) : List ScannedRow × Option Fault → Prop
  | (row :: rest, fault) =>
    events = [] ∧ ∃ s, outcome = .ok (some row, s) ∧ s.gives fault? = (rest, fault)
  | ([], none) => (∀ e ∈ events, IsClosing e) ∧ ∃ s, outcome = .ok (none, s)
  | ([], some e) => (∀ e ∈ events, IsClosing e) ∧ outcome = .error e

theorem readGateway_leaves (rows : List (Except Mismatch ScannedRow)) (index : Nat) (c : Client) :
    Leaves Steady c (readGateway rows index) fun ran events =>
      Gave c.store.readFault? ran.1 events
        (Scanner.given .gateway c.store.readFault? rows index) := by
  have ended : ∀ e ∈ [Event.gatewayScanClosed], IsClosing e :=
    List.forall_mem_singleton.mpr (.inr rfl)
  induction rows generalizing index c with
  | nil =>
    unfold readGateway Leaves
    rw [Scanner.given]
    cases found : c.store.readFault? index with
    | none =>
      rw [Action.bind_of_ok (attempt_of_eq (checkRead_of_none found))]
      exact ⟨_, ⟨⟨rfl, rfl⟩, rfl⟩, ended, _, rfl⟩
    | some e =>
      rw [Action.bind_of_ok (attempt_of_eq (checkRead_of_some found))]
      exact ⟨_, ⟨⟨rfl, rfl⟩, rfl⟩, ended, rfl⟩
  | cons row rest ih =>
    refine .bind_attempt steady_isTrace (reach_leaves index row c) ?_
    rintro outcome _ c' left ⟨rfl, reached⟩
    dsimp only at reached
    rw [Scanner.given, ← reached]
    cases outcome with
    | error e => exact ⟨_, ⟨⟨rfl, rfl⟩, rfl⟩, ended, rfl⟩
    | ok row =>
      dsimp only
      by_cases bare : row.cells.isEmpty
      · rw [if_pos bare, if_pos ⟨rfl, bare⟩, ← left.reads]
        exact ih (index + 1) c'
      · rw [if_neg bare, if_neg fun both => bare both.2]
        exact ⟨[], .refl c', rfl, _, rfl, rfl⟩

/-- A read gives the first row that is left, or the end, or the fault. -/
theorem readRow_leaves (s : Scanner) (c : Client) :
    Leaves Steady c (readRow s) fun ran events =>
      Gave c.store.readFault? ran.1 events (s.gives c.store.readFault?) := by
  have noted : Leaves Steady c (note .rowAsked) fun ran events => ran.1 = .ok () ∧ events = [] :=
    ⟨[], ⟨⟨rfl, (List.append_nil _).symm⟩, rfl⟩, rfl, rfl⟩
  refine .bind steady_isTrace noted ?_ (fun _ _ _ _ failed => nomatch failed.1)
  rintro ⟨⟩ _ c' left ⟨-, rfl⟩
  rw [← left.reads, Scanner.gives]
  cases backend : s.backend with
  | gateway => exact readGateway_leaves s.remaining s.index c'
  | direct =>
    cases remaining : s.remaining with
    | nil =>
      dsimp only
      unfold Leaves
      rw [Scanner.given]
      cases found : c'.store.readFault? s.index with
      | none =>
        rw [Action.bind_of_ok (checkRead_of_none found)]
        exact ⟨[], .refl c', List.forall_mem_nil _, _, rfl⟩
      | some e =>
        rw [Action.bind_of_error (checkRead_of_some found)]
        exact ⟨[], ⟨⟨rfl, (List.append_nil _).symm⟩, rfl⟩, List.forall_mem_nil _, rfl⟩
    | cons row rest =>
      refine .bind steady_isTrace (reach_leaves s.index row c') ?_ ?_
      · rintro row _ c'' - ⟨rfl, reached⟩
        rw [Scanner.given, ← reached]
        refine ⟨[], .refl c'', rfl, _, rfl, ?_⟩
        rw [Scanner.gives, ← backend]
      · rintro e _ c'' - ⟨rfl, reached⟩
        rw [Scanner.given, ← reached]
        exact ⟨List.forall_mem_nil _, rfl⟩

/-- Whether the next scanner that is closed closes without a fault. -/
def Closes (c : Client) : Prop := (c.store.pass .scannerClose).1 = none

theorem Closes.of_plan (h : Closes c) (plan : c'.store.plan = c.store.plan) : Closes c' := by
  have same : (c'.store.pass .scannerClose).1 = (c.store.pass .scannerClose).1 := by
    unfold Store.pass
    rw [plan]
    split <;> rfl
  exact same.trans h

theorem closeScanner_ok (s : Scanner) (closes : Closes c) :
    ∃ events c', closeScanner s c = (.ok (), c') ∧ Logged events c c' ∧
      ∀ e ∈ events, IsClosing e := by
  unfold closeScanner
  cases s.backend with
  | direct =>
    let closed := (log .scannerClosed (note .scannerClosed c).2).2
    have ran : pass .scannerClose closed = (.ok (), (pass .scannerClose closed).2) := by
      have passes : Closes closed := closes.of_plan rfl
      unfold Closes at passes
      rcases passed : closed.store.pass .scannerClose with ⟨fault, store⟩
      rw [passed] at passes
      subst passes
      rw [pass, passed]
    refine ⟨[.scannerClosed], _, ran, ⟨?_, pass_log .scannerClose closed⟩,
      List.forall_mem_singleton.mpr (.inl rfl)⟩
    rw [pass_state]
    rfl
  | gateway =>
    dsimp only
    split
    · exact ⟨[.gatewayScanClosed], _, rfl, ⟨rfl, rfl⟩, List.forall_mem_singleton.mpr (.inr rfl)⟩
    · exact ⟨[], _, rfl, ⟨rfl, (List.append_nil _).symm⟩, List.forall_mem_nil _⟩

end Client
end WideColumn
