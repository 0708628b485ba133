import Mathlib.Data.List.Nodup
import WideColumn.OrderedMap

/-! Maps that many entries are written into. Of the entries with one key the last one counts, and
keys that are new come last, in the order in which they are written. -/
namespace WideColumn.OrderedMap

variable {α β : Type} [DecidableEq α] {m : OrderedMap α β} {entries : List (α × β)} {key : α}
  {value : β}

theorem find?_eq_none_iff : find? key entries = none ↔ key ∉ entries.map Prod.fst := by
  induction entries with
  | nil => simp [find?]
  | cons e rest ih =>
    obtain ⟨k, v⟩ := e
    by_cases same : k = key
    · simp [find?, same]
    · simp [find?, same, ih, Ne.symm same]

theorem mem_keys_iff : key ∈ m.keys ↔ ∃ value, m.get? key = some value := by
  rw [← Option.ne_none_iff_exists', ne_eq, get?, find?_eq_none_iff, not_not, keys]

theorem mem_of_get? (found : m.get? key = some value) : (key, value) ∈ m.entries := by
  obtain ⟨entries⟩ := m
  simp only [get?] at found
  induction entries with
  | nil => cases found
  | cons e rest ih =>
    obtain ⟨k, v⟩ := e
    rw [find?] at found
    split at found
    · next same =>
      cases found
      exact same ▸ .head _
    · exact .tail _ (ih found)

/-! Maps in which no key stands twice. -/

theorem nodup_keys_insert (once : m.keys.Nodup) (key : α) (value : β) :
    (m.insert key value).keys.Nodup := by
  rw [keys_insert]
  split
  · exact once
  · next absent =>
    rw [← List.concat_eq_append]
    exact once.concat absent

/-- The entries with a key, of which a map has one at most. -/
theorem filter_key {entries : List (α × β)} (once : (entries.map Prod.fst).Nodup) (key : α) :
    entries.filter (·.1 = key) = ((find? key entries).map (key, ·)).toList := by
  induction entries with
  | nil => rfl
  | cons e rest ih =>
    obtain ⟨k, v⟩ := e
    obtain ⟨absent, once⟩ := List.nodup_cons.mp once
    by_cases same : k = key
    · subst same
      have none : rest.filter (·.1 = k) = [] := by
        refine List.filter_eq_nil_iff.mpr fun e member isKey => absent ?_
        exact List.mem_map.mpr ⟨e, member, of_decide_eq_true isKey⟩
      simp [find?, none]
    · simp [find?, same, ih once]

/-- Every entry is found. -/
theorem get?_eq_some_iff (once : m.keys.Nodup) :
    m.get? key = some value ↔ (key, value) ∈ m.entries := by
  refine ⟨mem_of_get?, fun member => ?_⟩
  have one : (key, value) ∈ m.entries.filter (·.1 = key) := by simp [member]
  rw [filter_key once, Option.mem_toList] at one
  simpa [get?] using one

/-- A map is given by its keys and their values. -/
theorem entries_eq (once : m.keys.Nodup) (default : β) :
    m.entries = m.keys.map fun key => (key, (m.get? key).getD default) := by
  rw [keys, List.map_map]
  refine (List.map_id _).symm.trans (List.map_congr_left fun e member => ?_)
  have found : m.get? e.1 = some e.2 := (get?_eq_some_iff once).mpr member
  simp [found]

/-! Entries that are written. -/

theorem insertAll_append (m : OrderedMap α β) (first more : List (α × β)) :
    m.insertAll (first ++ more) = (m.insertAll first).insertAll more := List.foldl_append

theorem get?_insertAll_of_notMem (new : key ∉ entries.map Prod.fst) (m : OrderedMap α β) :
    (m.insertAll entries).get? key = m.get? key := by
  induction entries generalizing m with
  | nil => rfl
  | cons e rest ih =>
    obtain ⟨other, later⟩ := not_or.mp (mt List.mem_cons.mpr new)
    exact (ih later _).trans (m.get?_insert_of_ne e.2 (Ne.symm other))

theorem get?_insertAll_of_last {before after : List (α × β)} (last : key ∉ after.map Prod.fst)
    (m : OrderedMap α β) :
    (m.insertAll (before ++ (key, value) :: after)).get? key = some value := by
  rw [insertAll_append]
  exact (get?_insertAll_of_notMem last _).trans (get?_insert_self _ key value)

theorem write_new {entries : List (α × β)} (new : key ∉ entries.map Prod.fst) (value : β) :
    write key value entries = entries ++ [(key, value)] := by
  induction entries with
  | nil => rfl
  | cons e rest ih =>
    obtain ⟨other, later⟩ := not_or.mp (mt List.mem_cons.mpr new)
    simp [write, Ne.symm other, ih later]

theorem entries_insertAll {entries : List (α × β)} (once : (entries.map Prod.fst).Nodup)
    {m : OrderedMap α β} (new : ∀ e ∈ entries, e.1 ∉ m.keys) :
    (m.insertAll entries).entries = m.entries ++ entries := by
  induction entries generalizing m with
  | nil => simp [insertAll]
  | cons e rest ih =>
    obtain ⟨absent, once⟩ := List.nodup_cons.mp once
    obtain ⟨first, later⟩ := List.forall_mem_cons.mp new
    have written : (m.insert e.1 e.2).entries = m.entries ++ [e] := write_new first e.2
    have apart : ∀ e' ∈ rest, e'.1 ∉ (m.insert e.1 e.2).keys := by
      intro e' member
      rw [keys, written, List.map_append, List.mem_append, List.map_singleton, List.mem_singleton]
      rintro (old | same)
      · exact later e' member old
      · exact absent (same ▸ List.mem_map_of_mem member)
    have more := ih once apart
    rw [written, List.append_assoc] at more
    exact more

/-! Maps that are written over others. -/

theorem get?_update {n : OrderedMap α β} (once : n.keys.Nodup) (m : OrderedMap α β) (key : α) :
    (m.update n).get? key = (n.get? key).or (m.get? key) := by
  cases found : n.get? key with
  | none =>
    rw [Option.none_or]
    exact get?_insertAll_of_notMem (find?_eq_none_iff.mp found) m
  | some value =>
    obtain ⟨before, after, entries⟩ := List.append_of_mem (mem_of_get? found)
    rw [keys, entries, List.map_append] at once
    have last := (List.nodup_cons.mp (List.nodup_append.mp once).2.1).1
    rw [update, entries, get?_insertAll_of_last last, Option.some_or]

theorem empty_update {n : OrderedMap α β} (once : n.keys.Nodup) :
    (∅ : OrderedMap α β).update n = n := by
  have written := entries_insertAll (m := ∅) once fun _ _ => List.not_mem_nil
  exact congrArg mk (written.trans (List.nil_append _))

theorem write_write_self (key : α) (first value : β) (entries : List (α × β)) :
    write key value (write key first entries) = write key value entries := by
  induction entries with
  | nil => simp [write]
  | cons e rest ih =>
    by_cases same : e.1 = key
    · simp [write, same]
    · simp [write, same, ih]

/-- A key that is there keeps its place, whatever is written before or after it. -/
theorem write_comm {other : α} (present : key ∈ entries.map Prod.fst) (apart : other ≠ key)
    (first value : β) : write key value (write other first entries) =
      write other first (write key value entries) := by
  induction entries with
  | nil => cases present
  | cons e rest ih =>
    obtain ⟨k, v⟩ := e
    by_cases same : k = key
    · subst same
      simp [write, Ne.symm apart]
    · have later : key ∈ rest.map Prod.fst := by simpa [Ne.symm same] using present
      by_cases isOther : k = other
      · simp [write, isOther, apart]
      · simp [write, same, isOther, ih later]

theorem insertAll_insert (present : key ∈ m.keys) (absent : key ∉ entries.map Prod.fst)
    (value : β) :
    (m.insertAll entries).insert key value = (m.insert key value).insertAll entries := by
  induction entries generalizing m with
  | nil => rfl
  | cons e rest ih =>
    obtain ⟨other, later⟩ := not_or.mp (mt List.mem_cons.mpr absent)
    have still : key ∈ (m.insert e.1 e.2).keys := by
      rw [keys_insert]
      split
      · exact present
      · exact List.mem_append_left _ present
    have swapped : (m.insert e.1 e.2).insert key value = (m.insert key value).insert e.1 e.2 :=
      congrArg mk (write_comm present (Ne.symm other) e.2 value)
    exact (ih still later).trans (congrArg (insertAll · rest) swapped)

theorem insertAll_write (once : (entries.map Prod.fst).Nodup) (m : OrderedMap α β) (key : α)
    (value : β) :
    m.insertAll (write key value entries) = (m.insertAll entries).insert key value := by
  induction entries generalizing m with
  | nil => rfl
  | cons e rest ih =>
    obtain ⟨k, v⟩ := e
    obtain ⟨absent, once⟩ := List.nodup_cons.mp once
    by_cases same : k = key
    · subst same
      have present : k ∈ (m.insert k v).keys := mem_keys_iff.mpr ⟨v, get?_insert_self m k v⟩
      have again : (m.insert k v).insert k value = m.insert k value :=
        congrArg mk (write_write_self k v value m.entries)
      calc m.insertAll (write k value ((k, v) :: rest)) = (m.insert k value).insertAll rest := by
            simp [write, insertAll]
        _ = ((m.insert k v).insertAll rest).insert k value := by
            rw [insertAll_insert present absent, again]
    · have later : write key value ((k, v) :: rest) = (k, v) :: write key value rest := by
        simp [write, same]
      rw [later]
      exact ih once _

/-- Writing a map over another one and then an entry is writing the map that has the entry. -/
theorem update_insert {n : OrderedMap α β} (once : n.keys.Nodup) (m : OrderedMap α β) (key : α)
    (value : β) : m.update (n.insert key value) = (m.update n).insert key value :=
  insertAll_write once m key value

theorem update_assoc {n : OrderedMap α β} (once : n.keys.Nodup) (m l : OrderedMap α β) :
    (m.update n).update l = m.update (n.update l) := by
  suffices all : ∀ entries : List (α × β),
      (m.update n).insertAll entries = m.update (n.insertAll entries) from all l.entries
  intro entries
  induction entries generalizing n with
  | nil => rfl
  | cons e rest ih =>
    have more := ih (nodup_keys_insert once e.1 e.2)
    rw [update_insert once] at more
    exact more

variable {γ : Type}

omit [DecidableEq α] in
theorem keys_mapValues (f : β → γ) (m : OrderedMap α β) : (m.mapValues f).keys = m.keys := by
  simp [keys, mapValues]

theorem get?_mapValues (f : β → γ) (m : OrderedMap α β) (key : α) :
    (m.mapValues f).get? key = (m.get? key).map f := by
  obtain ⟨entries⟩ := m
  simp only [get?, mapValues]
  induction entries with
  | nil => rfl
  | cons e rest ih =>
    by_cases same : e.1 = key
    · simp [find?, same]
    · simp [find?, same, ih]

theorem mapValues_insert (f : β → γ) (m : OrderedMap α β) (key : α) (value : β) :
    (m.insert key value).mapValues f = (m.mapValues f).insert key (f value) := by
  obtain ⟨entries⟩ := m
  simp only [insert, mapValues, mk.injEq]
  induction entries with
  | nil => rfl
  | cons e rest ih =>
    by_cases same : e.1 = key
    · simp [write, same]
    · simp [write, same, ih]

theorem mapValues_update (f : β → γ) (m n : OrderedMap α β) :
    (m.update n).mapValues f = (m.mapValues f).update (n.mapValues f) := by
  obtain ⟨entries⟩ := n
  simp only [update, insertAll, mapValues]
  induction entries generalizing m with
  | nil => rfl
  | cons e rest ih =>
    rw [List.foldl_cons, List.map_cons, List.foldl_cons, ih]
    have here := mapValues_insert f m e.1 e.2
    rw [mapValues] at here
    rw [here]
    rfl

end WideColumn.OrderedMap
