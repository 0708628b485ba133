import WideColumn.Stream.Publisher
import WideColumn.Stream.Supplier

/-!
Publishing to a table. Every record becomes a request for its row, and a batch is put at once.
Records without a row key are left out. A record of a batch that cannot be written keeps the whole
batch from being put.
-/
namespace WideColumn.Stream

structure TableSink where
  publisher : String
  table : String
  layout : Record.Layout
  supplier : Supplier

namespace TableSink

/-- Puts requests, and counts them. -/
def put (t : TableSink) (requests : List PutRequest) : Action Hub Nat := do
  t.supplier.work "put" (Client.put t.table requests)
  Hub.count (.published t.publisher t.table) requests.length
  return requests.length

def request (t : TableSink) (data : Value) : Except Fault (Option PutRequest) :=
  (Record.requestOf t.layout (some t.table) data).mapError .ofRecord

/-- Publishes one record. -/
def write (t : TableSink) (data : Value) : Action Hub Nat := do
  match ← Action.ofExcept (t.request data) with
  | none => return 0
  | some request => put t [request]

def writeBatch (t : TableSink) (batch : List Value) : Action Hub Nat := do
  let requests ← Action.ofExcept (batch.mapM t.request)
  match requests.filterMap id with
  | [] => return 0
  | first :: more => put t (first :: more)

def sink (t : TableSink) : Sink Hub := ⟨t.write, some t.writeBatch⟩

end TableSink

/-- A sink that notes its records, and refuses the ones that are equal to a given value. -/
def recorder (refused : Option Value) : Sink Hub where
  write data :=
    if refused.any data.same then do
      let text ← Action.ofExcept (data.shownText.mapError .ofInteger)
      Action.fail (.collaborator "RuntimeError" ("refused " ++ text))
    else do
      Hub.log (.recorded data)
      return 1

end WideColumn.Stream
