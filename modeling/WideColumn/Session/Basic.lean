import WideColumn.Stream.Setup

/-!
Sessions: a hub together with the services, publishers, subscribers and cursors that are known by
names.
-/
namespace WideColumn

inductive Member
  | service (id : ServiceId)
  | publisher (publisher : Stream.TablePublisher)
  | recorder (publisher : Stream.Publisher) (refused : Option Value)
  | subscriber (subscriber : Stream.TableSubscriber)
  | prepared (subscriber : Stream.Subscriber) (items : List Stream.Prepared)

structure Session where
  hub : Hub := {}
  members : OrderedMap String Member := ∅
  cursors : OrderedMap String (ServiceId × Cursor) := ∅

namespace Session

def onHub {α : Type} (a : Action Hub α) : Action Session α :=
  Action.onPart hub (fun hub s => { s with hub }) a

def find (name : String) : Action Session Member := do
  let s ← Action.get
  match s.members.get? name with
  | some member => return member
  | none => Action.fail (.unknown name)

def bindName (name : String) (member : Member) : Action Session Unit :=
  .modify fun s => { s with members := s.members.insert name member }

def findService (name : String) : Action Session ServiceId := do
  match ← find name with
  | .service id => return id
  | _ => Action.fail (.unknown name)

def onService {α : Type} (name : String) (a : Action Client α) : Action Session α := do
  let id ← findService name
  onHub (Hub.onService id a)

def onPublisher {α : Type} (name : String)
    (a : Stream.Sink Hub → Action (Stream.Publisher × Hub) α) : Action Session α := do
  match ← find name with
  | .publisher p =>
    Action.onPart (fun s => (p.publisher, s.hub))
      (fun after s => { s with
        hub := after.2
        members := s.members.insert name (.publisher { p with publisher := after.1 }) })
      (a p.table.sink)
  | .recorder p refused =>
    Action.onPart (fun s => (p, s.hub))
      (fun after s => { s with
        hub := after.2
        members := s.members.insert name (.recorder after.1 refused) })
      (a (Stream.recorder refused))
  | _ => Action.fail (.unknown name)

def onSubscriber {α : Type} (name : String)
    (a : (σ : Type) → Stream.Source σ → Action (Stream.Subscriber × σ) α) : Action Session α := do
  match ← find name with
  | .subscriber t =>
    Action.onPart (fun s => (t.subscriber, t.feed, s.hub))
      (fun after s => { s with
        hub := after.2.2
        members := s.members.insert name (.subscriber ⟨after.1, after.2.1⟩) })
      (a _ Stream.TableFeed.source)
  | .prepared p items =>
    Action.onPart (fun s => (p, items, s.hub))
      (fun after s => { s with
        hub := after.2.2
        members := s.members.insert name (.prepared after.1 after.2.1) })
      (a _ Stream.Prepared.source)
  | _ => Action.fail (.unknown name)

/-- The subscriber of a name. -/
def subscriber (name : String) : Action Session Stream.Subscriber :=
  onSubscriber name fun _ _ => do return (← Action.get).1

def updateSubscriber (name : String) (f : Stream.Subscriber → Stream.Subscriber) :
    Action Session Unit :=
  onSubscriber name fun _ _ => .modify fun s => (f s.1, s.2)

def onFeed {α : Type} (name : String) (a : Action (Stream.TableFeed × Hub) α) :
    Action Session α := do
  match ← find name with
  | .subscriber t =>
    Action.onPart (fun s => (t.feed, s.hub))
      (fun after s => { s with
        hub := after.2
        members := s.members.insert name (.subscriber { t with feed := after.1 }) })
      a
  | _ => Action.fail (.unknown name)

def findCursor (name : String) : Action Session (ServiceId × Cursor) := do
  let s ← Action.get
  match s.cursors.get? name with
  | some cursor => return cursor
  | none => Action.fail (.unknown name)

def bindCursor (name : String) (id : ServiceId) (cursor : Cursor) : Action Session Unit :=
  .modify fun s => { s with cursors := s.cursors.insert name (id, cursor) }

end Session
end WideColumn
