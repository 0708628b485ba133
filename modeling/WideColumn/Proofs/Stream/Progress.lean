import Mathlib.Data.List.Basic
import WideColumn.Stream.Progress

/-! The progress of scans against what they have delivered. The timestamp that has been reached and
the rows at it are all that a list of deliveries says about which rows are due, whatever the order
in which they were delivered. -/
namespace WideColumn.Stream

/-- A delivery: the key of a row, and the timestamp of its newest cell. -/
abbrev Delivery := Option Bytes × Int

/-- The newest timestamp among deliveries, or the one to start from. -/
def reached (start : Int) (delivered : List Delivery) : Int :=
  delivered.foldl (fun t d => max t d.2) start

/-- A row is due when its newest cell is younger than everything that has been delivered, or as old
as the youngest and the row has not been delivered with it. -/
def IsDue (start : Int) (delivered : List Delivery) (key : Option Bytes) (newest : Int) : Prop :=
  reached start delivered < newest ∨
    newest = reached start delivered ∧ (key, newest) ∉ delivered

instance (start : Int) (delivered : List Delivery) (key : Option Bytes) (newest : Int) :
    Decidable (IsDue start delivered key newest) :=
  inferInstanceAs (Decidable (_ ∨ _))

/-- A row with the timestamp of its newest cell, if it has a cell and is due. -/
def dueRow? (start : Int) (delivered : List Delivery) (row : ScannedRow) :
    Option (Int × ScannedRow) :=
  (ScannedRow.newest? row.cells).bind fun newest =>
    if IsDue start delivered row.key newest then some (newest, row) else none

/-- The rows of a scan that are due, in its order. -/
def dueRows (start : Int) (delivered : List Delivery) (rows : List ScannedRow) :
    List (Int × ScannedRow) := rows.filterMap (dueRow? start delivered)

/-- The deliveries of rows. -/
def deliveries (rows : List (Int × ScannedRow)) : List Delivery :=
  rows.map fun row => (row.2.key, row.1)

variable {start : Int} {delivered : List Delivery}

/-- The greatest of a first number and those of a list. -/
theorem foldl_max {α : Type} (f : α → Int) (first : Int) (as : List α) :
    let greatest := as.foldl (fun t a => max t (f a)) first
    first ≤ greatest ∧ (∀ a ∈ as, f a ≤ greatest) ∧
      (greatest = first ∨ ∃ a ∈ as, f a = greatest) := by
  induction as generalizing first with
  | nil => simp
  | cons a as ih =>
    obtain ⟨low, bound, member⟩ := ih (max first (f a))
    simp only [List.foldl_cons, List.mem_cons, forall_eq_or_imp, exists_eq_or_imp]
    refine ⟨by omega, ⟨by omega, bound⟩, ?_⟩
    rcases member with same | later
    · omega
    · exact .inr (.inr later)

theorem newest?_eq_some_iff {cells : List Cell} {t : Int} : ScannedRow.newest? cells = some t ↔
    (∃ c ∈ cells, c.timestamp = t) ∧ ∀ c ∈ cells, c.timestamp ≤ t := by
  cases cells with
  | nil => simp [ScannedRow.newest?]
  | cons c rest =>
    obtain ⟨low, bound, member⟩ := foldl_max Cell.timestamp c.timestamp rest
    simp only [ScannedRow.newest?, Option.some.injEq, List.mem_cons, forall_eq_or_imp,
      exists_eq_or_imp]
    constructor
    · rintro rfl
      exact ⟨member.imp Eq.symm id, low, bound⟩
    · rintro ⟨present, first, others⟩
      apply Int.le_antisymm
      · rcases member with same | ⟨d, isCell, same⟩
        · rw [same]
          exact first
        · rw [← same]
          exact others d isCell
      · rcases present with same | ⟨d, isCell, same⟩
        · rw [← same]
          exact low
        · rw [← same]
          exact bound d isCell

theorem dueRow?_eq_some_iff {row : ScannedRow} {due : Int × ScannedRow} :
    dueRow? start delivered row = some due ↔ due.2 = row ∧
      ScannedRow.newest? row.cells = some due.1 ∧ IsDue start delivered row.key due.1 := by
  obtain ⟨newest, found⟩ := due
  simp only [dueRow?, Option.bind_eq_some_iff, Option.ite_none_right_eq_some, Option.some.injEq,
    Prod.mk.injEq]
  constructor
  · rintro ⟨_, cells, isDue, rfl, rfl⟩
    exact ⟨rfl, cells, isDue⟩
  · rintro ⟨rfl, cells, isDue⟩
    exact ⟨newest, cells, isDue, rfl, rfl⟩

theorem reached_append (delivered : List Delivery) (d : Delivery) :
    reached start (delivered ++ [d]) = max (reached start delivered) d.2 := by
  simp [reached]

theorem le_reached {d : Delivery} (member : d ∈ delivered) : d.2 ≤ reached start delivered :=
  (foldl_max Prod.snd start delivered).2.1 d member

/-- The progress says what has been reached, and which rows have been delivered with it. -/
structure Progress.Follows (start : Int) (delivered : List Delivery) (p : Progress) : Prop where
  timestamp : p.minTimestamp = reached start delivered
  seen : ∀ key, key ∈ p.seen ↔ (key, reached start delivered) ∈ delivered

namespace Progress

theorem follows_start (start : Int) : Follows start [] ⟨start, []⟩ := ⟨rfl, by simp⟩

theorem Follows.isNew_iff {p : Progress} (h : p.Follows start delivered) {key : Option Bytes}
    {newest : Int} : p.isNew key newest = true ↔ IsDue start delivered key newest := by
  simp only [isNew, h.timestamp, Bool.or_eq_true, Bool.and_eq_true, decide_eq_true_eq,
    Bool.not_eq_true', List.contains_eq_mem, decide_eq_false_iff_not, h.seen, IsDue]
  constructor
  · rintro (younger | ⟨rfl, unseen⟩)
    · exact .inl younger
    · exact .inr ⟨rfl, unseen⟩
  · rintro (younger | ⟨rfl, unseen⟩)
    · exact .inl younger
    · exact .inr ⟨rfl, unseen⟩

theorem Follows.newRows {p : Progress} (h : p.Follows start delivered) (rows : List ScannedRow) :
    p.newRows rows = dueRows start delivered rows := by
  refine List.filterMap_congr fun row _ => ?_
  cases newest : ScannedRow.newest? row.cells with
  | none => simp [dueRow?, newest]
  | some t => simp [dueRow?, newest, h.isNew_iff]

/-- One delivery: it raises the timestamp and is alone at it, joins the rows at it, or is older. -/
theorem Follows.note {p : Progress} (h : p.Follows start delivered) (key : Option Bytes)
    (newest : Int) : (p.note newest key).Follows start (delivered ++ [(key, newest)]) := by
  obtain ⟨timestamp, seen⟩ := h
  unfold Progress.note
  split
  · next younger =>
    have raised : reached start (delivered ++ [(key, newest)]) = newest := by
      rw [reached_append]
      omega
    refine ⟨raised.symm, fun other => ?_⟩
    have fresh : (other, newest) ∉ delivered := by
      intro member
      have bound : newest ≤ reached start delivered := le_reached member
      omega
    simp [raised, fresh]
  · next notYounger =>
    have kept : reached start (delivered ++ [(key, newest)]) = reached start delivered := by
      rw [reached_append]
      omega
    split
    · next unseen =>
      simp only [Bool.and_eq_true, decide_eq_true_eq] at unseen
      refine ⟨timestamp.trans kept.symm, fun other => ?_⟩
      have level : reached start delivered = newest := by omega
      simp [kept, seen, level]
    · next old =>
      refine ⟨timestamp.trans kept.symm, fun other => ?_⟩
      simp only [Bool.and_eq_true, decide_eq_true_eq, Bool.not_eq_true', List.contains_eq_mem,
        decide_eq_false_iff_not, not_and, not_not, seen] at old
      simp only [kept, seen, List.mem_append, List.mem_singleton, Prod.mk.injEq, iff_self_or]
      rintro ⟨rfl, level⟩
      exact old (timestamp.trans level)

theorem Follows.noteAll {p : Progress} (h : p.Follows start delivered)
    (rows : List (Int × ScannedRow)) :
    (p.noteAll rows).Follows start (delivered ++ deliveries rows) := by
  induction rows generalizing p delivered with
  | nil => simpa [Progress.noteAll, deliveries] using h
  | cons row rows ih =>
    have rest := ih (h.note row.2.key row.1)
    simpa [Progress.noteAll, deliveries] using rest

end Progress

/-- Rows of a scan that are due make no delivery a second time, if no two of them have one key. -/
theorem nodup_deliveries (once : delivered.Nodup) {rows : List ScannedRow}
    (distinct : (rows.map ScannedRow.key).Nodup) :
    (delivered ++ deliveries (dueRows start delivered rows)).Nodup := by
  have apart : rows.Pairwise fun a b => a.key ≠ b.key := List.pairwise_map.mp distinct
  refine List.nodup_append.mpr ⟨once, ?_, ?_⟩
  · refine List.pairwise_map.mpr (List.pairwise_filterMap.mpr (apart.imp ?_))
    intro a b other due isDue due' isDue' same
    obtain ⟨rfl, -⟩ := dueRow?_eq_some_iff.mp isDue
    obtain ⟨rfl, -⟩ := dueRow?_eq_some_iff.mp isDue'
    exact other (congrArg Prod.fst same)
  · rintro d before _ now rfl
    obtain ⟨due, member, rfl⟩ := List.mem_map.mp now
    obtain ⟨row, -, found⟩ := List.mem_filterMap.mp member
    obtain ⟨rfl, -, isDue⟩ := dueRow?_eq_some_iff.mp found
    rcases isDue with younger | ⟨-, fresh⟩
    · exact Int.not_le.mpr younger (le_reached before)
    · exact fresh before

end WideColumn.Stream
