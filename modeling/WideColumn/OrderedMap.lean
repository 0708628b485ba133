/-!
Maps that keep the order in which their keys were first written. Writing a key again changes its
value and leaves it in its place.
-/
namespace WideColumn

structure OrderedMap (α β : Type) where
  entries : List (α × β) := []
  deriving DecidableEq, Repr

namespace OrderedMap

variable {α β γ : Type} [DecidableEq α]

instance : EmptyCollection (OrderedMap α β) := ⟨⟨[]⟩⟩

instance : Inhabited (OrderedMap α β) := ⟨∅⟩

def find? (key : α) : List (α × β) → Option β
  | [] => none
  | (k, v) :: rest => if k = key then some v else find? key rest

def write (key : α) (value : β) : List (α × β) → List (α × β)
  | [] => [(key, value)]
  | (k, v) :: rest => if k = key then (k, value) :: rest else (k, v) :: write key value rest

def get? (m : OrderedMap α β) (key : α) : Option β := find? key m.entries

def insert (m : OrderedMap α β) (key : α) (value : β) : OrderedMap α β :=
  ⟨write key value m.entries⟩

def contains (m : OrderedMap α β) (key : α) : Bool := (m.get? key).isSome

def keys (m : OrderedMap α β) : List α := m.entries.map (·.1)

def values (m : OrderedMap α β) : List β := m.entries.map (·.2)

def insertAll (m : OrderedMap α β) (entries : List (α × β)) : OrderedMap α β :=
  entries.foldl (fun m e => m.insert e.1 e.2) m

def ofList (entries : List (α × β)) : OrderedMap α β := (∅ : OrderedMap α β).insertAll entries

/-- Writes the entries of a second map over those of a first one. -/
def update (m n : OrderedMap α β) : OrderedMap α β := m.insertAll n.entries

def alter (m : OrderedMap α β) (key : α) (f : Option β → β) : OrderedMap α β :=
  m.insert key (f (m.get? key))

def mapValues (f : β → γ) (m : OrderedMap α β) : OrderedMap α γ :=
  ⟨m.entries.map fun e => (e.1, f e.2)⟩

@[simp] theorem find?_write (key other : α) (value : β) (entries : List (α × β)) :
    find? other (write key value entries) =
      if key = other then some value else find? other entries := by
  induction entries with
  | nil => simp [write, find?]
  | cons e rest ih =>
    obtain ⟨k, v⟩ := e
    by_cases isWritten : k = key
    · subst isWritten
      by_cases same : k = other
      · simp [write, find?, same]
      · simp [write, find?, same]
    · by_cases same : k = other
      · subst same
        simp [write, find?, isWritten, Ne.symm isWritten]
      · simp [write, find?, isWritten, same, ih]

theorem get?_insert (m : OrderedMap α β) (key other : α) (value : β) :
    (m.insert key value).get? other = if key = other then some value else m.get? other :=
  find?_write key other value m.entries

@[simp] theorem get?_insert_self (m : OrderedMap α β) (key : α) (value : β) :
    (m.insert key value).get? key = some value := by
  simp [get?_insert]

theorem get?_insert_of_ne (m : OrderedMap α β) {key other : α} (value : β) (h : key ≠ other) :
    (m.insert key value).get? other = m.get? other := by
  simp [get?_insert, h]

theorem map_fst_write (key : α) (value : β) (entries : List (α × β)) :
    (write key value entries).map (·.1) =
      if key ∈ entries.map (·.1) then entries.map (·.1) else entries.map (·.1) ++ [key] := by
  induction entries with
  | nil => rfl
  | cons e rest ih =>
    obtain ⟨k, v⟩ := e
    by_cases h : k = key
    · simp [write, h]
    · have h' : ¬ key = k := fun e => h e.symm
      simp only [write, h, if_false, List.map_cons, ih, List.mem_cons, h', false_or]
      split <;> simp

/-- Writing a key that is there leaves the keys as they are; a new key comes last. -/
theorem keys_insert (m : OrderedMap α β) (key : α) (value : β) :
    (m.insert key value).keys = if key ∈ m.keys then m.keys else m.keys ++ [key] :=
  map_fst_write key value m.entries

end OrderedMap
end WideColumn
