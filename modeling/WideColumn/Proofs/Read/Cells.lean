import WideColumn.Proofs.Except
import WideColumn.Proofs.Record.Names

/-! Cells of gateway rows. Family and qualifier of a cell are slices of one array, the name of its
column, and they stand before and after the first colon of it. -/
namespace WideColumn

namespace Slice

/-- A slice that lies in its array. -/
structure Inside (s : Slice) : Prop where
  offset : 0 ≤ s.offset
  length : 0 ≤ s.length
  fits : s.offset + s.length ≤ s.array.length

theorem inside_of_le {b : Bytes} {offset length : Nat} (fits : offset + length ≤ b.length) :
    Inside ⟨b, offset, length⟩ := by
  constructor
  · exact Int.natCast_nonneg offset
  · exact Int.natCast_nonneg length
  · change (offset : Int) + length ≤ b.length
    omega

theorem inside_whole (b : Bytes) : (whole b).Inside := by
  apply inside_of_le
  rw [Nat.zero_add]

end Slice

theorem Bytes.splitAt?_eq_none {sep : UInt8} {b : Bytes} (absent : sep ∉ b) :
    splitAt? sep b = none := by
  induction b with
  | nil => rfl
  | cons first rest ih =>
    obtain ⟨other, absent⟩ := not_or.mp (List.mem_cons.not.mp absent)
    simp [splitAt?, Ne.symm other, ih absent]

namespace Cell

/-- Where the family stands in the name of a column. -/
def familyIn (column : Bytes) : Slice :=
  ⟨column, (splitColumn column).1.1, (splitColumn column).1.2⟩

/-- Where the qualifier stands in the name of a column. -/
def qualifierIn (column : Bytes) : Slice :=
  ⟨column, (splitColumn column).2.1, (splitColumn column).2.2⟩

theorem splitColumn_join {family : Bytes} (qualifier : Bytes) (plain : Column.colon ∉ family) :
    splitColumn (Column.join family qualifier) =
      ((0, family.length), (family.length + 1, qualifier.length)) := by
  rw [splitColumn, Column.join, Bytes.splitAt?_append qualifier plain]

theorem splitColumn_plain {column : Bytes} (plain : Column.colon ∉ column) :
    splitColumn column = ((0, column.length), (column.length, 0)) := by
  rw [splitColumn, Bytes.splitAt?_eq_none plain]

/-- What has been joined is found where it stands. -/
theorem bytes_join {family : Bytes} (qualifier : Bytes) (plain : Column.colon ∉ family) :
    (familyIn (Column.join family qualifier)).bytes = family ∧
      (qualifierIn (Column.join family qualifier)).bytes = qualifier := by
  obtain ⟨isFamily, isQualifier, -⟩ := ofColumn_join [] qualifier [] 0 plain
  exact ⟨isFamily, isQualifier⟩

/-- A name without a colon is all family. -/
theorem bytes_plain {column : Bytes} (plain : Column.colon ∉ column) :
    (familyIn column).bytes = column ∧ (qualifierIn column).bytes = [] := by
  rw [familyIn, qualifierIn, splitColumn_plain plain, Slice.bytes_nat, Slice.bytes_nat]
  simp

theorem inside_splitColumn (column : Bytes) :
    (familyIn column).Inside ∧ (qualifierIn column).Inside := by
  by_cases colon : Column.colon ∈ column
  · obtain ⟨family, qualifier, rfl, plain⟩ := List.eq_append_cons_of_mem colon
    have split := splitColumn_join qualifier plain
    rw [Column.join] at split
    rw [familyIn, qualifierIn, split]
    constructor
    · apply Slice.inside_of_le
      simp
    · apply Slice.inside_of_le
      simp only [List.length_append, List.length_cons]
      omega
  · rw [familyIn, qualifierIn, splitColumn_plain colon]
    constructor
    · apply Slice.inside_of_le
      simp
    · apply Slice.inside_of_le
      simp

/-- A name of a column is its family, and after it, where there is a colon, the first one with the
qualifier. -/
theorem bytes_splitColumn (column : Bytes) :
    Column.colon ∉ (familyIn column).bytes ∧ column = (familyIn column).bytes ++
      if Column.colon ∈ column then Column.colon :: (qualifierIn column).bytes else [] := by
  by_cases colon : Column.colon ∈ column
  · obtain ⟨family, qualifier, rfl, plain⟩ := List.eq_append_cons_of_mem colon
    obtain ⟨isFamily, isQualifier⟩ := bytes_join qualifier plain
    rw [Column.join] at isFamily isQualifier
    rw [if_pos colon, isFamily, isQualifier]
    exact ⟨plain, rfl⟩
  · rw [if_neg colon, (bytes_plain colon).1, List.append_nil]
    exact ⟨colon, rfl⟩

/-- A cell that shows the value of a column of a row. -/
structure Reads (key column value : Bytes) (timestamp : Int) (c : Cell) : Prop where
  row : c.row = .whole key
  value : c.value = .whole value
  timestamp : c.timestamp = timestamp
  arrays : c.family.array = column ∧ c.qualifier.array = column
  inside : c.row.Inside ∧ c.family.Inside ∧ c.qualifier.Inside ∧ c.value.Inside
  plain : Column.colon ∉ c.family.bytes
  name : column = c.family.bytes ++
    if Column.colon ∈ column then Column.colon :: c.qualifier.bytes else []
  bare : Column.colon ∉ column → c.qualifier.bytes = []

theorem ofColumn_reads (key column value : Bytes) (timestamp : Int) :
    (ofColumn key column value timestamp).Reads key column value timestamp := by
  obtain ⟨family, qualifier⟩ := inside_splitColumn column
  obtain ⟨plain, name⟩ := bytes_splitColumn column
  exact ⟨rfl, rfl, rfl, ⟨rfl, rfl⟩,
    ⟨Slice.inside_whole key, family, qualifier, Slice.inside_whole value⟩, plain, name,
    fun bare => (bytes_plain bare).2⟩

end Cell

namespace GatewayRow

/-- The cell of an entry whose column and value are known. -/
def cellOf (row : Bytes) (e : Option Bytes × Option Bytes × Int) : Cell :=
  .ofColumn row (e.1.getD []) (e.2.1.getD []) e.2.2

/-- A row that comes with all its parts. -/
structure IsKnown (r : GatewayRow) : Prop where
  key : r.key.isSome
  entries : ∀ e ∈ r.columns.entries, e.1.isSome ∧ e.2.1.isSome

/-- The entries of a row that are not older than a timestamp. -/
def young (r : GatewayRow) (minTimestamp : Int) : List (Option Bytes × Option Bytes × Int) :=
  r.columns.entries.filter fun e => minTimestamp ≤ e.2.2

theorem since_eq_young {r : GatewayRow} (known : r.IsKnown) (minTimestamp : Int) :
    r.since minTimestamp =
      .ok ⟨r.key, (r.young minTimestamp).map (cellOf (r.key.getD []))⟩ := by
  obtain ⟨key, isKey⟩ := Option.isSome_iff_exists.mp known.key
  have cells : (r.young minTimestamp).mapM (fun e => cell r.key e.1 e.2.1 e.2.2) =
      .ok ((r.young minTimestamp).map (cellOf (r.key.getD []))) := by
    refine mapM_of_forall₂ ?_
    rw [List.forall₂_map_right_iff, List.forall₂_same]
    rintro ⟨column, value, timestamp⟩ member
    obtain ⟨hasName, hasValue⟩ := known.entries _ (List.mem_of_mem_filter member)
    obtain ⟨column, rfl⟩ := Option.isSome_iff_exists.mp hasName
    obtain ⟨value, rfl⟩ := Option.isSome_iff_exists.mp hasValue
    rw [isKey]
    rfl
  unfold young at cells
  rw [since, cells]
  rfl

/-- A scanned row that shows the cells of a row that are not older than a timestamp. There is such
a cell. -/
structure Shows (minTimestamp : Int) (r : GatewayRow) (row : ScannedRow) : Prop where
  key : row.key = r.key
  filled : row.cells ≠ []
  cells : List.Forall₂
    (fun e c => c.Reads (r.key.getD []) (e.1.getD []) (e.2.1.getD []) e.2.2)
    (r.young minTimestamp) row.cells

theorem shows_young {r : GatewayRow} {minTimestamp : Int} (filled : r.young minTimestamp ≠ []) :
    r.Shows minTimestamp ⟨r.key, (r.young minTimestamp).map (cellOf (r.key.getD []))⟩ := by
  refine ⟨rfl, List.map_eq_nil_iff.not.mpr filled, ?_⟩
  rw [List.forall₂_map_right_iff, List.forall₂_same]
  exact fun e _ => Cell.ofColumn_reads _ _ _ e.2.2

end GatewayRow
end WideColumn
