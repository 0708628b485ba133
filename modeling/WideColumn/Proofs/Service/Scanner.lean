import WideColumn.Proofs.Service.Calls

/-! What opening a scanner logs. A scan of the gateway carries the filter of its request, in its
written form, and nothing else does. -/
namespace WideColumn.Client

open Store (Event Point)

theorem order_filter {request : ScanRequest} {order : Store.ScanOrder}
    (h : request.order = .ok order) : order.filter = request.filter.map Filter.Node.wire := by
  unfold ScanRequest.order at h
  cases names : request.columns.mapM Column.name with
  | error e =>
    rw [names] at h
    cases h
  | ok columns =>
    rw [names] at h
    cases h
    rfl

theorem makeScanner_gateway {connection : Connection} {request : ScanRequest} {c c' : Client}
    {outcome : Except Fault Scanner} (gateway : connection.backend = .gateway)
    (made : makeScanner connection request c = (outcome, c')) :
    (c'.store.log = c.store.log ∧ ∀ s, outcome ≠ .ok s) ∨
      ∃ scan, scan.filter = request.filter.map Filter.Node.wire ∧
        c'.store.log = c.store.log ++ [.gatewayScanned scan] := by
  unfold makeScanner at made
  rw [gateway] at made
  dsimp only at made
  rcases table : lookUp connection request.table c with ⟨found, c₁⟩
  have log₁ : c₁.store.log = c.store.log := by
    have same := lookUp_log connection request.table c
    rwa [table] at same
  cases found with
  | error e =>
    rw [Action.bind_of_error table] at made
    cases made
    exact .inl ⟨log₁, by simp⟩
  | ok =>
    rw [Action.bind_of_ok table] at made
    cases ordered : request.order with
    | error e =>
      rw [ordered] at made
      cases made
      exact .inl ⟨log₁, by simp⟩
    | ok order =>
      rw [ordered] at made
      let c₂ : Client := { c₁ with store := c₁.store.record (.gatewayScanned order.toGateway) }
      have logged : log (.gatewayScanned order.toGateway) c₁ = (.ok (), c₂) := rfl
      have placed :
          Action.ofExcept ((Except.ok order).mapError Fault.mismatch) c₁ = (.ok order, c₁) := rfl
      rw [Action.bind_of_ok placed, Action.bind_of_ok logged] at made
      have log₂ := pass_log .scanner c₂
      rcases scanner : pass .scanner c₂ with ⟨passed, c₃⟩
      rw [scanner] at log₂
      have log₃ : c₃.store.log = c.store.log ++ [.gatewayScanned order.toGateway] := by
        rw [log₂, ← log₁]
        rfl
      refine .inr ⟨order.toGateway, order_filter ordered, ?_⟩
      cases passed with
      | error e =>
        rw [Action.bind_of_error scanner] at made
        cases made
        exact log₃
      | ok =>
        rw [Action.bind_of_ok scanner] at made
        cases made
        exact log₃

/-- Opening a scanner of the gateway asks it for at most one scan, with the filter of the request;
and for one, if a scanner is opened. -/
theorem openScanner_gateway {connection : Connection} {request : ScanRequest} {c c' : Client}
    {outcome : Except Fault Scanner} (gateway : connection.backend = .gateway)
    (opened : openScanner connection request c = (outcome, c')) :
    (c'.store.log = c.store.log ∧ ∀ s, outcome ≠ .ok s) ∨
      ∃ scan, scan.filter = request.filter.map Filter.Node.wire ∧
        c'.store.log = c.store.log ++ [.gatewayScanned scan] := by
  unfold openScanner at opened
  have asked : note (.scannerAsked connection.number request.table) c =
      (.ok (), (note (.scannerAsked connection.number request.table) c).2) := rfl
  rw [Action.bind_of_ok asked] at opened
  rcases made : makeScanner connection request
    (note (.scannerAsked connection.number request.table) c).2 with ⟨scanner, c₁⟩
  have logged := makeScanner_gateway gateway made
  cases scanner with
  | error e =>
    rw [Action.bind_of_error made] at opened
    cases opened
    exact logged
  | ok s =>
    rw [Action.bind_of_ok made] at opened
    cases opened
    exact .inr (logged.resolve_left fun none => none.2 s rfl)

end WideColumn.Client
