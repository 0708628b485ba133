import WideColumn.Write.Request

/-!
Calls: what a service asks of the connections and scanners that its factories hand over, in order.
Events are what can be observed at the store; a call also tells on which connection it is made, and
which connection the service has at that moment.
-/
namespace WideColumn.Store

/-- One call. Connections have numbers. A connection counts as connected and a scanner as opened
once its factory has handed it over; everything else counts when it is asked for, however it ends. -/
inductive Call
  | connected (connection : Nat)
  | disconnected (connection : Nat)
  | lookedUp (connection : Nat) (table : String)
  | put (connection : Nat) (table : String) (mutations : List Mutation)
  | deleted (connection : Nat) (table : String) (row : Option Bytes)
  | scannerAsked (connection : Nat) (table : String)
  | scannerOpened
  | rowAsked
  | scannerClosed
  deriving DecidableEq, Repr

/-- A call that has been made, and the connection that the service had when it made it. -/
structure Made where
  call : Call
  current : Option Nat
  deriving DecidableEq, Repr

end WideColumn.Store
