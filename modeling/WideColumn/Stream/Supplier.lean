import WideColumn.Service.Hub

/-!
Who a publisher or a subscriber works through: a service that it shares with others, one that was
made for it alone and is shut down with it, or a configured value that turns out to be no service.
-/
namespace WideColumn.Stream

inductive Supplier
  | shared (service : ServiceId)
  | owned (service : ServiceId)
  | unfit (typeName : String)
  deriving DecidableEq, Repr

namespace Supplier

/-- Lets the service work. A value that is no service has no such operation. -/
def work {α : Type} (s : Supplier) (operation : String) (a : Action Client α) : Action Hub α :=
  match s with
  | shared service | owned service => Hub.onService service a
  | unfit typeName => Action.fail (.mismatch (.lacks typeName operation))

def release : Supplier → Action Hub Unit
  | owned service => Hub.onService service Client.shutdown
  | shared _ | unfit _ => pure ()

end Supplier
end WideColumn.Stream
