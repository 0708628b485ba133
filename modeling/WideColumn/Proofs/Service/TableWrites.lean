import WideColumn.Proofs.Service.Beside
import WideColumn.Proofs.Service.Operations
import WideColumn.Proofs.Service.Sending

/-! Putting table by table. A put is refused as a whole before anything is asked of the store; else
its tables are written one after the other up to the first that cannot be, and each one that has
been written counts. -/
namespace WideColumn

open WideColumn.Action (Keeps)
open Store (Call Event Point)

namespace Client

variable {α β : Type} {a : Action Client α} {c c' c'' : Client}

variable (connection : Connection) (table : String) (mutations : List Mutation)

/-- A table is looked up once. If it is found it is put once. -/
theorem writeTable_makes (c : Client) :
    Makes c (writeTable connection table mutations) fun outcome calls =>
      calls = Store.putCalls connection table mutations ∨
        calls = [.lookedUp connection.number table] ∧ ∃ e, outcome = .error e := by
  have lookedUp : Makes c (lookUp connection table) fun _ calls =>
      calls = [.lookedUp connection.number table] := .note_silent (.pass _)
  refine .bind lookedUp ?_ ?_
  · rintro _ _ c' - - rfl
    refine Makes.mono (.note_silent ?_) fun _ _ made => .inl (congrArg _ made)
    cases connection.backend with
    | direct => exact .bind (.log _) fun _ => .pass _
    | gateway => exact sendRuns_silent table _
  · rintro e _ - rfl
    exact .inr ⟨rfl, e, rfl⟩

/-- An action that logs events whenever it ends well. -/
def Logs (events : List Event) (a : Action Client α) : Prop :=
  ∀ c x c', a c = (.ok x, c') → c'.store.log = c.store.log ++ events

namespace Logs

variable {events more : List Event} {f : α → Action Client β}

theorem of_keeps (kept : Keeps (·.store.log) a) : Logs [] a := by
  intro c x c' ran
  have same := kept c
  rw [ran] at same
  rw [List.append_nil]
  exact same

theorem log (e : Event) : Logs [e] (Client.log e) := by
  rintro c _ _ ⟨⟩
  rfl

theorem bind (first : Logs events a)
    (next : ∀ c x c', a c = (.ok x, c') → Logs more (f x)) : Logs (events ++ more) (a >>= f) := by
  intro c y c'' ran
  obtain ⟨x, c', began, went⟩ := Action.bind_eq_ok_iff.mp ran
  rw [next c x c' began c' y c'' went, first c x c' began, List.append_assoc]

/-- A sequence whose first part logs nothing. -/
theorem after (first : Logs [] a) (next : ∀ c x c', a c = (.ok x, c') → Logs events (f x)) :
    Logs events (a >>= f) := first.bind next

end Logs

/-- A table that is put without a fault has been written completely. -/
theorem writeTable_logs : Logs (Store.putEvents connection.backend table mutations)
    (writeTable connection table mutations) := by
  refine Logs.after (.of_keeps (lookUp_log connection table)) fun _ _ _ _ => ?_
  refine Logs.after (.of_keeps (.modify fun _ => rfl)) fun _ _ _ _ => ?_
  cases connection.backend with
  | direct => exact Logs.bind (.log _) fun _ _ _ _ => .of_keeps (pass_log _)
  | gateway => exact fun _ _ _ went => log_of_sendRuns went

/-! What has been counted after a table. -/

/-- The metrics of a table that has been written. -/
def writtenMetrics (m : Metrics) : Metrics :=
  ((((m.add (.putDuration table)).add (.puts table true)).add (.rowsWritten table)
    mutations.length).add (.cellsWritten table) (mutations.flatMap (·.cells)).length).observeBatch
    table mutations.length

/-- The metrics of a table that could not be written. -/
def missedMetrics (e : Fault) (m : Metrics) : Metrics :=
  let timed := m.add (.putDuration table)
  (if e.isService then timed else timed.add (.errors e.kind "put")).add (.puts table false)

theorem putTable_written (wrote : writeTable connection table mutations c = (.ok (), c')) :
    putTable connection table mutations c = (.ok (), { c' with
      metrics := writtenMetrics table mutations c'.metrics
      service := { c'.service with putCount := c'.service.putCount + 1 } }) := by
  have attempted :
      Action.attempt (writeTable connection table mutations) c = (.ok (.ok ()), c') := by
    rw [Action.attempt, wrote]
  exact Action.bind_of_ok attempted

theorem putTable_failed {e : Fault}
    (failed : writeTable connection table mutations c = (.error e, c')) :
    putTable connection table mutations c =
      (.error (if e.isService then e else .store (.put mutations.length table) e),
        { c' with metrics := missedMetrics table e c'.metrics }) := by
  have attempted :
      Action.attempt (writeTable connection table mutations) c = (.ok (.error e), c') := by
    rw [Action.attempt, failed]
  refine (Action.bind_of_ok attempted).trans ?_
  unfold missedMetrics
  cases service : e.isService with
  | true => simp only [service]; rfl
  | false => simp only [service]; rfl

/-! All tables. -/

/-- What a client is after tables have been written: each has been looked up and put once, with its
mutations and completely, and counts. -/
structure WroteTables (connection : Connection) (tables : List (String × List Mutation))
    (c c' : Client) : Prop where
  calls : c'.store.calls.map (·.call) = c.store.calls.map (·.call) ++
    tables.flatMap fun t => Store.putCalls connection t.1 t.2
  log : c'.store.log = c.store.log ++
    tables.flatMap fun t => Store.putEvents connection.backend t.1 t.2
  service : c'.service = { c.service with putCount := c.service.putCount + tables.length }

namespace WroteTables

variable {connection : Connection} {tables more : List (String × List Mutation)}

theorem refl (c : Client) : WroteTables connection [] c c :=
  ⟨(List.append_nil _).symm, (List.append_nil _).symm, rfl⟩

theorem trans (first : WroteTables connection tables c c')
    (second : WroteTables connection more c' c'') :
    WroteTables connection (tables ++ more) c c'' where
  calls := by rw [second.calls, first.calls, List.flatMap_append, List.append_assoc]
  log := by rw [second.log, first.log, List.flatMap_append, List.append_assoc]
  service := by rw [second.service, first.service, List.length_append, Nat.add_assoc]

end WroteTables

variable {connection table mutations} {tables : List (String × List Mutation)}

theorem putTable_wrote (wrote : writeTable connection table mutations c = (.ok (), c')) :
    ∃ c'', putTable connection table mutations c = (.ok (), c'') ∧
      WroteTables connection [(table, mutations)] c c'' := by
  refine ⟨_, putTable_written connection table mutations wrote, ?_, ?_, ?_⟩
  · obtain ⟨calls, after, made⟩ := writeTable_makes connection table mutations c
    rw [wrote] at after made
    rcases made with rfl | ⟨-, e, failed⟩
    · rw [List.flatMap_singleton]
      change c'.store.calls.map (·.call) = _
      rw [after.noted, List.map_append, List.map_map]
      exact congrArg _ (List.map_id _)
    · cases failed
  · rw [List.flatMap_singleton]
    exact writeTable_logs connection table mutations c () c' wrote
  · have same := writeTable_beside connection table mutations c
    rw [wrote] at same
    have service : c'.service = c.service := congrArg Prod.fst same
    rw [← service]
    rfl

/-- How a put of tables ends, where all before a first one have been written: all of them have been,
or the first one left cannot be, and nothing more is asked of the store. -/
def EndsAt (connection : Connection) (c : Client) (ran : Except Fault Unit × Client) :
    List (String × List Mutation) → Prop
  | [] => ran = (.ok (), c)
  | (table, mutations) :: _ => ∃ e, (writeTable connection table mutations c).1 = .error e ∧
      ran.1 = .error (if e.isService then e else .store (.put mutations.length table) e) ∧
      ran.2.store = (writeTable connection table mutations c).2.store ∧
      ran.2.service = c.service ∧
      (ran.2.store.calls.map (·.call) =
          c.store.calls.map (·.call) ++ [.lookedUp connection.number table] ∨
        ran.2.store.calls.map (·.call) =
          c.store.calls.map (·.call) ++ Store.putCalls connection table mutations)

theorem endsAt_of_failed {e : Fault} {rest : List (String × List Mutation)}
    (failed : writeTable connection table mutations c = (.error e, c')) :
    EndsAt connection c (putTables connection ((table, mutations) :: rest) c)
      ((table, mutations) :: rest) := by
  have stopped : putTables connection ((table, mutations) :: rest) c = _ :=
    Action.bind_of_error (putTable_failed connection table mutations failed)
  have kept := writeTable_beside connection table mutations c
  obtain ⟨calls, after, made⟩ := writeTable_makes connection table mutations c
  have noted := congrArg (List.map (·.call)) after.noted
  rw [List.map_append, List.map_map] at noted
  rw [EndsAt, stopped]
  rw [failed] at kept made noted ⊢
  refine ⟨e, rfl, rfl, rfl, congrArg Prod.fst kept, ?_⟩
  have all : calls.map (Store.Made.call ∘ fun call =>
      ⟨call, c.service.connection.map (·.number)⟩) = calls := List.map_id calls
  rw [all] at noted
  rcases made with rfl | ⟨rfl, -⟩
  · exact .inr noted
  · exact .inl noted

/-- The tables that are put up to the first one that cannot be. -/
theorem putTables_endsAt (connection : Connection) (tables : List (String × List Mutation))
    (c : Client) : ∃ written rest c', tables = written ++ rest ∧
      WroteTables connection written c c' ∧
      EndsAt connection c' (putTables connection tables c) rest := by
  induction tables generalizing c with
  | nil => exact ⟨[], [], c, rfl, .refl c, rfl⟩
  | cons t rest ih =>
    obtain ⟨table, mutations⟩ := t
    rcases ran : writeTable connection table mutations c with ⟨e | ⟨⟩, c₁⟩
    · exact ⟨[], _, c, rfl, .refl c, endsAt_of_failed ran⟩
    · obtain ⟨c₂, put, wrote⟩ := putTable_wrote ran
      obtain ⟨written, left, c₃, split, wrote', ends⟩ := ih c₂
      have goesOn : putTables connection ((table, mutations) :: rest) c =
          putTables connection rest c₂ := Action.bind_of_ok put
      refine ⟨(table, mutations) :: written, left, c₃, ?_, wrote.trans wrote', ?_⟩
      · rw [split]
        rfl
      · rw [goesOn]
        exact ends

/-- What a client with a connection puts. -/
theorem put_of_connection (current : c.service.connection = some connection) (default : String)
    (requests : List PutRequest) : put default requests c =
      match Mutation.batchByTable (some default) requests with
      | .error row => (.error (.noTable row), c)
      | .ok tables => putTables connection tables.entries c := by
  rw [put, requireConnection_bind, current]
  dsimp only
  cases Mutation.batchByTable (some default) requests with
  | error row => rfl
  | ok tables => rfl

/-- Requests are put as a whole or refused as a whole: if one of them has no table, nothing is asked
and nothing counts. Else their tables are put one after the other, in the order of their first
requests, up to the first one that cannot be written. -/
theorem put_endsAt (current : c.service.connection = some connection) (default : String)
    (requests : List PutRequest) :
    ((∃ r ∈ requests, r.tableOr (some default) = none) → ∃ r ∈ requests,
      r.tableOr (some default) = none ∧ (Fault.noTable r.row).kind = "ValueError" ∧
        put default requests c = (.error (.noTable r.row), c)) ∧
    ((∀ r ∈ requests, r.tableOr (some default) ≠ none) → ∃ written rest c',
      Mutation.tablePuts (some default) requests = written ++ rest ∧
        WroteTables connection written c c' ∧
        EndsAt connection c' (put default requests c) rest) ∧
    (requests = [] → put default requests c = (.ok (), c)) := by
  have put_eq := put_of_connection current default requests
  refine ⟨fun missing => ?_, fun named => ?_, ?_⟩
  · obtain ⟨r, member, none, refused⟩ := Mutation.requestsByTable_error missing
    refine ⟨r, member, none, rfl, ?_⟩
    rw [put_eq, Mutation.batchByTable, refused]
    rfl
  · have batched := Mutation.batchByTable_eq fun r member =>
      Option.isSome_iff_ne_none.mpr (named r member)
    rw [put_eq, batched]
    exact putTables_endsAt connection (Mutation.tablePuts (some default) requests) c
  · rintro rfl
    exact put_eq

/-- Requests for three tables, of which the second cannot be put. -/
theorem put_endsAt_second_table :
    let fault := Fault.collaborator "IOError" "gone"
    let c : Client :=
      { service :=
          { name := "s", settings := ∅, backend := .direct, connection := some ⟨1, .direct⟩ }
        store := Store.planFault {} .put (some ⟨1, fault⟩)
        metrics := {} }
    let row := fun key : String => some (Utf8.ofString key)
    let requests : List PutRequest :=
      [⟨some "t", row "a", [], none⟩, ⟨none, row "b", [], none⟩, ⟨some "t", row "c", [], none⟩,
        ⟨some "u", row "d", [], none⟩, ⟨some "", row "b", [], none⟩]
    let ran := put "d" requests c
    c.service.connection = some ⟨1, .direct⟩ ∧
      (∃ written rest c', Mutation.tablePuts (some "d") requests = written ++ rest ∧
        WroteTables ⟨1, .direct⟩ written c c' ∧ EndsAt ⟨1, .direct⟩ c' ran rest) ∧
      Mutation.tablePuts (some "d") requests =
        [("t", [⟨row "a", []⟩, ⟨row "c", []⟩]), ("d", [⟨row "b", []⟩]), ("u", [⟨row "d", []⟩])] ∧
      ran.1 = .error (.store (.put 1 "d") fault) ∧ ran.2.service.putCount = 1 ∧
      ran.2.store.calls.map (·.call) =
        [.lookedUp 1 "t", .put 1 "t" [⟨row "a", []⟩, ⟨row "c", []⟩], .lookedUp 1 "d",
          .put 1 "d" [⟨row "b", []⟩]] := by
  intro fault c row requests ran
  have named : ∀ r ∈ requests, r.tableOr (some "d") ≠ none := by decide +kernel
  refine ⟨rfl, (put_endsAt rfl "d" requests).2.1 named, by decide +kernel, rfl, ?_, ?_⟩
  · decide +kernel
  · decide +kernel

end Client
end WideColumn
