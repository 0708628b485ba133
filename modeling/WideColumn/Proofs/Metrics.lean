import WideColumn.Metrics

/-! What the metrics count. The counts of different series are apart; those of scans are also told
by how many have been timed but not counted. -/
namespace WideColumn

/-- The series that count scans. -/
def Series.isOfScans : Series → Bool
  | scans .. | scanDuration _ => true
  | puts .. | putDuration _ | rowsWritten _ | cellsWritten _ | rowsRead _ | cellsRead _
  | published .. | received .. | errors .. => false

/-- The series that count puts. -/
def Series.isOfWrites : Series → Bool
  | puts .. | putDuration _ | rowsWritten _ | cellsWritten _ => true
  | scans .. | scanDuration _ | rowsRead _ | cellsRead _ | published .. | received .. | errors .. =>
    false

namespace Metrics

variable {s : Series}

theorem count_add (m : Metrics) (s other : Series) (n : Nat) :
    (m.add s n).count other = if s = other then m.count s + n else m.count other := by
  rw [count, add, OrderedMap.get?_insert]
  split
  · rfl
  · rfl

/-- Adding to one series adds nothing to another one. -/
theorem count_add_eq (m : Metrics) (s other : Series) (n : Nat) :
    (m.add s n).count other = m.count other + if s = other then n else 0 := by
  rw [count_add]
  split
  · next same => rw [same]
  · rfl

theorem count_add_self (m : Metrics) (s : Series) (n : Nat) :
    (m.add s n).count s = m.count s + n := by
  rw [count_add, if_pos rfl]

/-- A series that does not count scans leaves their counts alone. -/
theorem count_add_of_other (m : Metrics) (other : s.isOfScans = false) (n : Nat) {t : Series}
    (isOfScans : t.isOfScans) : (m.add s n).count t = m.count t := by
  have apart : s ≠ t := by
    rintro rfl
    cases other.symm.trans isOfScans
  rw [count_add, if_neg apart]

/-- The scans of a table that have been timed, less those that have been counted. -/
def uncounted (m : Metrics) (table : String) : Int :=
  m.count (.scanDuration table) - (m.count (.scans table true) + m.count (.scans table false))

theorem uncounted_of_same {m m' : Metrics}
    (same : ∀ s : Series, s.isOfScans → m'.count s = m.count s) : m'.uncounted = m.uncounted := by
  funext table
  rw [uncounted, uncounted, same _ rfl, same _ rfl, same _ rfl]

theorem uncounted_add (m : Metrics) (other : s.isOfScans = false) (n : Nat) :
    (m.add s n).uncounted = m.uncounted :=
  uncounted_of_same fun _ isOfScans => m.count_add_of_other other n isOfScans

/-- What is counted of puts. -/
def writes (m : Metrics) : (Series → Nat) × OrderedMap String (List Nat) :=
  (fun s => if s.isOfWrites then m.count s else 0, m.batchRows)

theorem writes_add (m : Metrics) (other : s.isOfWrites = false) (n : Nat) :
    (m.add s n).writes = m.writes := by
  refine Prod.ext (funext fun t => ?_) rfl
  simp only [writes]
  split
  · next ofWrites =>
    have apart : s ≠ t := by
      rintro rfl
      cases other.symm.trans ofWrites
    rw [count_add, if_neg apart]
  · rfl

theorem count_observeBatch (m : Metrics) (table : String) (rows : Nat) (s : Series) :
    (m.observeBatch table rows).count s = m.count s := rfl

theorem batches_observeBatch (m : Metrics) (table other : String) (rows : Nat) :
    (m.observeBatch table rows).batches other =
      m.batches other ++ if table = other then [rows] else [] := by
  rw [batches, observeBatch, OrderedMap.get?_insert]
  split
  · next same => rw [same]; rfl
  · exact (List.append_nil _).symm

theorem count_eq_of_writes {m m' : Metrics} (same : m'.writes = m.writes) {t : Series}
    (ofWrites : t.isOfWrites) : m'.count t = m.count t := by
  have counts := congrFun (congrArg Prod.fst same) t
  simp only [writes, ofWrites, if_true] at counts
  exact counts

end Metrics
end WideColumn
