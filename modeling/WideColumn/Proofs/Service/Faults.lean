import WideColumn.Proofs.Service.ScanOutcome

/-! What the caller of an operation learns of the faults that have been met during it. -/
namespace WideColumn.Client

open Store (Incident Point)

/-- What is done through a client and with its cursors. -/
inductive IsOperation : {α : Type} → Action Client α → Prop
  | enable (files : Files) : IsOperation (enable files)
  | enableRacing (files : Files) : IsOperation (enableRacing files)
  | shutdown : IsOperation shutdown
  | put (table : String) (requests : List PutRequest) : IsOperation (put table requests)
  | putRow (table : String) (row : Option Bytes) (columns : List CellWrite)
      (timestamp : Option Int) : IsOperation (putRow table row columns timestamp)
  | delete (table : String) (row : Option Bytes) : IsOperation (delete table row)
  | scan (request : ScanRequest) (expression : Option String) (handler : RowHandler) :
      IsOperation (scan request expression handler)
  | next (cursor : Cursor) : IsOperation (next cursor)
  | closeCursor (cursor : Cursor) : IsOperation (closeCursor cursor)

variable {α : Type} {a : Action Client α} {c c' : Client} {met : List Incident}

/-- The faults that an action meets come out as they surface; those at points are foreign where
the planned ones are. -/
def Surfacing (a : Action Client α) : Prop := ∀ c, ∃ met,
  (a c).2.store.incidents = c.store.incidents ++ met ∧
  (c.store.IsForeign → ∀ point e, ⟨.point point, e⟩ ∈ met → e.isService = false) ∧
  Surfaces (a c).2 (a c).1 met

theorem Surfacing.of_leaves {spec : Client → Except Fault α × Client → List Incident → Prop}
    (leaves : ∀ c, Action.Leaves Met c a (spec c))
    (surfaces : ∀ c ran met, spec c ran met → Surfaces ran.2 ran.1 met) : Surfacing a := by
  intro c
  obtain ⟨met, left, specified⟩ := leaves c
  exact ⟨met, left.noted, left.raised, surfaces c _ met specified⟩

theorem Ended.surfaces {handler : RowHandler} {outcome : Except Fault (List ScannedRow)}
    {status : Option Bool} (h : Ended handler outcome met status) (c : Client) :
    Surfaces c outcome met := by
  cases h with
  | counted handled =>
    cases handled with
    | rows => exact .quiet
    | failed interrupted => exact interrupted.of_error.surfaces c
    | aborted => exact .aborted
  | @uncounted index row e e' =>
    have handling : ¬ IsBare c ⟨.handler row.key, e⟩ := by
      rintro (same | ⟨same, -⟩)
      · cases same
      · cases same
    exact @Surfaces.bare _ _ [⟨.handler row.key, e⟩] .scannerClose e' (.inl rfl)
      (List.forall_mem_singleton.mpr handling)

theorem IsOperation.surfacing (h : IsOperation a) : Surfacing a := by
  have of_wraps : ∀ {α : Type} {a : Action Client α}, Wraps a → Surfacing a :=
    fun wraps => .of_leaves wraps fun c ran met wrapped => wrapped.surfaces ran.2
  cases h with
  | enable files => exact of_wraps (enable_wraps files)
  | put table requests => exact of_wraps (put_wraps table requests)
  | putRow table row columns timestamp => exact of_wraps (put_wraps table _)
  | delete table row => exact of_wraps (delete_wraps table row)
  | enableRacing files =>
    refine .of_leaves (enableWith_enabled (enable_wraps files)) ?_
    rintro c ran met (wrapped | ⟨-, -, enabled, e, rfl, failed⟩)
    · exact wrapped.surfaces ran.2
    · rw [failed]
      exact @Surfaces.bare _ _ [] .close e (.inr ⟨rfl, enabled⟩) (List.forall_mem_nil _)
  | shutdown =>
    refine .of_leaves shutdown_wraps ?_
    rintro c ran met (rfl | ⟨disabled, e, rfl, failed⟩)
    · exact .quiet
    · rw [failed]
      refine .wrapped (.inl ⟨.close, rfl⟩) ?_
      rintro (same | ⟨-, enabled⟩)
      · cases same
      · cases disabled.symm.trans enabled
  | next cursor =>
    exact .of_leaves (next_interrupted cursor) fun c ran met h => h.surfaces ran.2
  | closeCursor cursor =>
    refine .of_leaves (closeCursor_passed cursor) ?_
    rintro c ran met (⟨rfl, -⟩ | ⟨e, rfl, failed⟩)
    · exact .quiet
    · rw [failed]
      exact @Surfaces.bare _ _ [] .scannerClose e (.inl rfl) (List.forall_mem_nil _)
  | scan request expression handler =>
    intro c
    rcases openCursor_outcome request expression c with
      ⟨e, failed⟩ | ⟨connection, filter, -, opened⟩
    · have stopped : Client.scan request expression handler c = (.error e, c) :=
        Action.bind_of_error failed
      rw [stopped]
      exact ⟨[], (List.append_nil _).symm, nofun, .quiet⟩
    · obtain ⟨met, status, scanned, ended⟩ := scan_ended opened handler
      exact ⟨met, scanned.noted, scanned.raised, ended.surfaces _⟩

/-- Whatever is done through a client: if it meets faults, planned ones that are foreign to the
service or those of a handler, then it fails. The caller learns of one that ended it as a fault of
the service, which for a handler names the row and for the store has one of them as its cause. But a
fault of closing a scanner, or a connection that is surplus, hides all others and comes out as it
is. -/
theorem fault_surfaces (operation : IsOperation a) (foreign : c.store.IsForeign) :
    ∃ met, (a c).2.store.incidents = c.store.incidents ++ met ∧
      (met ≠ [] → ∃ e, (a c).1 = .error e ∧
        ((∀ i ∈ met, ¬ IsBare (a c).2 i) → e.isService ∧
          (∀ row f, ⟨.handler row, f⟩ ∈ met → e = .handlerAborted row f) ∧
          ((∀ row f, ⟨.handler row, f⟩ ∉ met) → ∃ action, ∃ i ∈ met, e = .store action i.fault)) ∧
        ∀ i ∈ met, IsBare (a c).2 i → e = i.fault ∧ e.isService = false) := by
  obtain ⟨met, noted, raised, surfaces⟩ := operation.surfacing c
  refine ⟨met, noted, fun some => ?_⟩
  generalize (a c).1 = outcome, (a c).2 = c' at surfaces
  have raised := raised foreign
  cases surfaces with
  | quiet => exact absurd rfl some
  | @wrapped point e e' becomes notBare =>
    have isForeign := raised point e (List.mem_singleton_self _)
    obtain ⟨action, rfl⟩ : ∃ action, e' = .store action e :=
      becomes.resolve_right fun isService => by simp [isForeign] at isService
    refine ⟨_, rfl, fun _ => ⟨rfl, fun row f member => ?_, fun _ => ?_⟩, fun i member isBare => ?_⟩
    · cases List.mem_singleton.mp member
    · exact ⟨action, _, List.mem_singleton_self _, rfl⟩
    · cases List.mem_singleton.mp member
      exact absurd isBare notBare
  | @aborted row e =>
    refine ⟨_, rfl, fun _ => ⟨rfl, fun row' f member => ?_, fun none => ?_⟩,
      fun i member isBare => ?_⟩
    · cases List.mem_singleton.mp member
      rfl
    · exact absurd (List.mem_singleton_self _) (none row e)
    · cases List.mem_singleton.mp member
      rcases isBare with same | ⟨same, -⟩
      · cases same
      · cases same
  | @bare before point e isBare others =>
    have last : (⟨.point point, e⟩ : Incident) ∈ before ++ [⟨.point point, e⟩] :=
      List.mem_append_right _ (List.mem_singleton_self _)
    refine ⟨e, rfl, fun none => absurd isBare (none _ last), fun i member isBare' => ?_⟩
    rcases List.mem_append.mp member with earlier | isLast
    · exact absurd isBare' (others i earlier)
    · cases List.mem_singleton.mp isLast
      exact ⟨rfl, raised point e last⟩

/-- A scan whose handler refuses the only row, and whose scanner cannot be closed after that. -/
theorem fault_surfaces_hidden_refusal :
    let gone : Fault := .collaborator "OSError" "gone"
    let full : Fault := .collaborator "RuntimeError" "full"
    let service : Service :=
      { name := "s", settings := ∅, backend := .direct, connection := some ⟨1, .direct⟩ }
    let store : Store := { rows := [⟨some [0x72], []⟩] }
    let c : Client := ⟨service, store.planFault .scannerClose (some ⟨0, gone⟩), {}⟩
    let refused := scan { table := "t" } none (fun _ _ => .error full)
    c.store.IsForeign ∧
      (refused c).2.store.incidents =
        [⟨.handler (some [0x72]), full⟩, ⟨.point .scannerClose, gone⟩] ∧
      (refused c).1 = .error gone ∧ gone.isService = false := by
  intro gone full service store c refused
  have foreign : c.store.IsForeign := by
    intro point planned isPlanned
    change (if point = .scannerClose then some (⟨0, gone⟩ : Planned) else none) = some planned
      at isPlanned
    obtain ⟨-, same⟩ := Option.ite_none_right_eq_some.mp isPlanned
    cases same
    decide
  have noted : (refused c).2.store.incidents =
      [⟨.handler (some [0x72]), full⟩, ⟨.point .scannerClose, gone⟩] := rfl
  obtain ⟨met, same, surfaced⟩ := fault_surfaces (.scan { table := "t" } none _) foreign
  obtain rfl : met = _ := same.symm.trans noted
  obtain ⟨e, failed, -, bare⟩ := surfaced (List.cons_ne_nil _ _)
  obtain ⟨rfl, raw⟩ := bare ⟨.point .scannerClose, gone⟩ (.tail _ (.head _)) (.inl rfl)
  exact ⟨foreign, noted, failed, raw⟩

end WideColumn.Client
