import WideColumn.Proofs.Action
import WideColumn.Service.Hub

/-! A service at work in its hub: what its client does there, and what a hub becomes by it. -/
namespace WideColumn.Hub

variable {α : Type} {hub : Hub} {id : ServiceId} {service : Service}

theorem onService_of_known (known : hub.services[id]? = some service) (a : Action Client α) :
    onService id a hub = ((a ⟨service, hub.store, hub.metrics⟩).1,
      hub.withClient id (a ⟨service, hub.store, hub.metrics⟩).2) := by
  unfold onService
  rw [known]

theorem withClient_self (known : hub.services[id]? = some service) :
    hub.withClient id ⟨service, hub.store, hub.metrics⟩ = hub := by
  obtain ⟨inside, rfl⟩ := List.getElem?_eq_some_iff.mp known
  rw [withClient, List.set_getElem_self]

theorem onService_reads {a : Action Client α} (reads : a.Reads) (id : ServiceId) :
    (onService id a).Reads := by
  intro hub
  cases found : hub.services[id]? with
  | none =>
    unfold onService
    rw [found]
  | some service => rw [onService_of_known found, reads, withClient_self found]

/-- A service that has just been added works as its client does. -/
theorem onService_added (hub : Hub) (service : Service) (a : Action Client α) :
    onService hub.services.length a { hub with services := hub.services ++ [service] } =
      ((a ⟨service, hub.store, hub.metrics⟩).1,
        { hub with
          store := (a ⟨service, hub.store, hub.metrics⟩).2.store
          metrics := (a ⟨service, hub.store, hub.metrics⟩).2.metrics
          services := hub.services ++ [(a ⟨service, hub.store, hub.metrics⟩).2.service] }) := by
  rw [onService_of_known List.getElem?_concat_length, withClient,
    List.set_append_right _ _ (Nat.le_refl _), Nat.sub_self]
  rfl

theorem createService_eq (name : String) (given : GivenSettings) (backend : Backend)
    (filters : Filter.Table) (hub : Hub) : createService name given backend filters hub =
      match Service.create name given backend filters with
      | .error e => (.error e, hub)
      | .ok service =>
        (.ok hub.services.length, { hub with services := hub.services ++ [service] }) := by
  unfold createService
  cases Service.create name given backend filters with
  | error e => rfl
  | ok service => rfl

end WideColumn.Hub
