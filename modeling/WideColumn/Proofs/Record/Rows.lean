import Mathlib.Data.List.Nodup
import WideColumn.Proofs.Record.Requests
import WideColumn.Record.Row

/-! Records of scanned rows, and the requests that they make in turn. A record has the row key, a
field for every cell in the order of the cells, and the newest timestamp; as a request it writes the
same cells to the same row again. -/
namespace WideColumn

namespace Value

variable {key value : Value} {entries : List (Value × Value)}

theorem writeEntry_of_absent (absent : ∀ e ∈ entries, e.1.sameKey key = false) :
    writeEntry key value entries = entries ++ [(key, value)] := by
  induction entries with
  | nil => rfl
  | cons entry rest ih =>
    obtain ⟨other, absent⟩ := List.forall_mem_cons.mp absent
    simp [writeEntry, other, ih absent]

theorem sameKey_text (s t : String) : (text s).sameKey (text t) = decide (s = t) := rfl

end Value

namespace Record

/-- The field that a cell becomes. -/
def field (c : Cell) : Value × Value :=
  (.text (fieldName c), .text (Utf8.toStringLossy c.value.bytes))

variable {record : Record} {cells : List Cell}

/-- Cells of different columns, none of which the record has yet, become fields at its end. -/
theorem addCells_eq (absent : ∀ e ∈ record, ∀ c ∈ cells, e.1.sameKey (.text (fieldName c)) = false)
    (distinct : (cells.map fieldName).Nodup) :
    addCells record cells = record ++ cells.map field := by
  induction cells generalizing record with
  | nil => exact (List.append_nil record).symm
  | cons c rest ih =>
    obtain ⟨single, distinct⟩ := List.nodup_cons.mp distinct
    have first : Value.writeEntry (.text (fieldName c)) (.text (Utf8.toStringLossy c.value.bytes))
        record = record ++ [field c] :=
      Value.writeEntry_of_absent fun e member => absent e member c (.head _)
    have others : ∀ e ∈ record ++ [field c], ∀ d ∈ rest,
        e.1.sameKey (.text (fieldName d)) = false := by
      intro e member d later
      rcases List.mem_append.mp member with old | new
      · exact absent e old d (.tail _ later)
      · rw [List.mem_singleton.mp new, field, Value.sameKey_text, decide_eq_false_iff_not]
        intro same
        exact single (same ▸ List.mem_map_of_mem later)
    have step : addCells record (c :: rest) = addCells (record ++ [field c]) rest := by
      rw [← first]
      rfl
    rw [step, ih others distinct, List.append_assoc]
    rfl

theorem fieldName_ne {f : String} (plain : ':' ∉ f.toList) (c : Cell) : f ≠ fieldName c := by
  rintro rfl
  exact plain (colon_mem_joined _ _)

theorem colon_not_mem_timestampField : ':' ∉ timestampField.toList := by decide

/-- The record of a row whose cells have different columns. Its row key has a name without a colon,
so it is in the way of no column. -/
theorem ofRow_eq {f : String} (plain : ':' ∉ f.toList) (other : f ≠ timestampField) (row : Bytes)
    (distinct : (cells.map fieldName).Nodup) :
    ofRow (.text f) (some row) cells =
      .ok ((.text f, .text (Utf8.toStringLossy row)) :: cells.map field ++
        [(.text timestampField, newestOf cells)]) := by
  have filled : addCells [(.text f, .text (Utf8.toStringLossy row))] cells =
      (.text f, .text (Utf8.toStringLossy row)) :: cells.map field := by
    refine addCells_eq ?_ distinct
    intro e member c _
    rw [List.mem_singleton.mp member, Value.sameKey_text, decide_eq_false_iff_not]
    exact fieldName_ne plain c
  have ended : ∀ e ∈ (Value.text f, Value.text (Utf8.toStringLossy row)) :: cells.map field,
      e.1.sameKey (.text timestampField) = false := by
    refine List.forall_mem_cons.mpr ⟨decide_eq_false other, List.forall_mem_map.mpr fun c _ => ?_⟩
    exact decide_eq_false (fieldName_ne colon_not_mem_timestampField c).symm
  change Except.ok (Value.writeEntry (.text timestampField) (newestOf cells)
    (addCells [(.text f, .text (Utf8.toStringLossy row))] cells)) = _
  rw [filled, Value.writeEntry_of_absent ended]

end Record

theorem ScannedRow.newest?_eq_max? (cells : List Cell) :
    newest? cells = (cells.map Cell.timestamp).max? := by
  cases cells with
  | nil => rfl
  | cons c rest => rw [newest?, List.map_cons, List.max?_cons', List.foldl_map]

namespace Cell

/-- The write of the cell, with a timestamp to come. -/
def rewritten (c : Cell) : CellWrite :=
  ⟨some c.family.bytes, some c.qualifier.bytes, some c.value.bytes, none⟩

/-- A cell that a record can hold and write: its parts spell texts, and its family neither has a
colon nor begins like the name of a field that is about the record. -/
structure IsData (c : Cell) : Prop where
  family : Utf8.IsText c.family.bytes
  qualifier : Utf8.IsText c.qualifier.bytes
  value : Utf8.IsText c.value.bytes
  plain : Column.colon ∉ c.family.bytes
  written : ¬ [0x5f, 0x5f] <+: c.family.bytes

namespace IsData

variable {c d : Cell}

theorem colon_not_mem (h : c.IsData) : ':' ∉ (Utf8.toStringLossy c.family.bytes).toList := by
  intro member
  refine h.plain ?_
  rw [← h.family.ofString_toStringLossy]
  exact List.mem_flatMap.mpr ⟨':', member, by decide⟩

theorem isMetadata_fieldName (h : c.IsData) :
    Record.isMetadata (Record.fieldName c) = false := by
  refine (Record.isMetadata_joined _ _).trans (Bool.eq_false_iff.mpr fun starts => h.written ?_)
  obtain ⟨rest, chars⟩ := List.isPrefixOf_iff_prefix.mp starts
  refine ⟨Utf8.encode rest, ?_⟩
  rw [← h.family.ofString_toStringLossy, Utf8.ofString, ← chars, Utf8.encode_append]
  rfl

/-- Two cells whose columns have one name in a record are of one column. -/
theorem column_eq (first : c.IsData) (second : d.IsData)
    (same : Record.fieldName c = Record.fieldName d) :
    (c.family.bytes, c.qualifier.bytes) = (d.family.bytes, d.qualifier.bytes) := by
  have parts := (Record.splitName?_joined _ first.colon_not_mem).symm.trans
    ((congrArg Record.splitName? same).trans (Record.splitName?_joined _ second.colon_not_mem))
  obtain ⟨family, qualifier⟩ := Prod.mk.inj (Option.some.inj parts)
  rw [← first.family.ofString_toStringLossy, ← first.qualifier.ofString_toStringLossy, family,
    qualifier, second.family.ofString_toStringLossy, second.qualifier.ofString_toStringLossy]

end IsData
end Cell

namespace Record

/-- How records of scanned rows are written again, with the timestamp of the row. -/
def rewriting (f : String) (family : Value) : Layout where
  columnFamily := family
  rowKeyField := .text f
  timestampField := .text timestampField

variable {f : String} {family : Value} {cells : List Cell}

theorem cell?_field (plain : ':' ∉ f.toList) {c : Cell} (data : c.IsData) :
    (rewriting f family).cell? (field c) = .ok (some c.rewritten) := by
  have written : (rewriting f family).writes (fieldName c)
      (.text (Utf8.toStringLossy c.value.bytes)) = true := by
    simp only [Layout.writes, rewriting, data.isMetadata_fieldName, Value.sameKey_text,
      (fieldName_ne plain c).symm, (fieldName_ne colon_not_mem_timestampField c).symm, decide_false]
    rfl
  have column : (rewriting f family).column (fieldName c) =
      (.text (Utf8.toStringLossy c.family.bytes), Utf8.toStringLossy c.qualifier.bytes) := by
    have split := splitName?_joined (Utf8.toStringLossy c.qualifier.bytes) data.colon_not_mem
    unfold Layout.column
    rw [show splitName? (fieldName c) = _ from split]
  refine (Layout.cell?_of_written written column rfl).trans ?_
  rw [data.family.ofString_toStringLossy, data.qualifier.ofString_toStringLossy]
  change Except.ok (some (CellWrite.mk _ _ (some (Utf8.ofString _)) none)) = _
  rw [data.value.ofString_toStringLossy]
  rfl

/-- The fields that are about the row make no cells, and those of its cells do. -/
theorem mapM_cell? (plain : ':' ∉ f.toList) (data : ∀ c ∈ cells, c.IsData) (row newest : Value) :
    List.mapM (rewriting f family).cell?
        ((.text f, row) :: cells.map field ++ [(.text timestampField, newest)]) =
      .ok (none :: cells.map (fun c => some c.rewritten) ++ [none]) := by
  have key : (rewriting f family).cell? (.text f, row) = .ok none := by
    refine Layout.cell?_of_skipped ?_
    simp [Layout.writes, rewriting, Value.sameKey_text]
  have timestamp : (rewriting f family).cell? (.text timestampField, newest) = .ok none := by
    refine Layout.cell?_of_skipped ?_
    simp [Layout.writes, rewriting, Value.sameKey_text]
  have fields : List.Forall₂ (fun e cell => (rewriting f family).cell? e = .ok cell)
      (cells.map field) (cells.map fun c => some c.rewritten) := by
    rw [List.forall₂_map_left_iff, List.forall₂_map_right_iff, List.forall₂_same]
    exact fun c member => cell?_field plain (data c member)
  have ended := List.rel_append fields (.cons timestamp .nil)
  exact mapM_of_forall₂ (.cons key ended)

theorem timestamp?_newestOf (cells : List Cell) :
    timestamp? (newestOf cells) = .ok (cells.map Cell.timestamp).max? := by
  rw [← ScannedRow.newest?_eq_max?, newestOf]
  cases ScannedRow.newest? cells with
  | none => rfl
  | some t => rfl

/-- A row that is read and written again: the record of a row, whose key and cells spell texts, is
the request that writes its cells to the same row, in their order and with the newest of their
timestamps. -/
theorem requestOf_ofRow (plain : ':' ∉ f.toList) (other : f ≠ timestampField) (family : Value)
    (table : Option String) {row : Bytes} (keyed : row ≠ []) (isText : Utf8.IsText row)
    (data : ∀ c ∈ cells, c.IsData)
    (distinct : (cells.map fun c => (c.family.bytes, c.qualifier.bytes)).Nodup) :
    ∃ record, ofRow (.text f) (some row) cells = .ok record ∧
      requestOf (rewriting f family) table (.dict record) =
        .ok (some ⟨table, some row, cells.map Cell.rewritten,
          (cells.map Cell.timestamp).max?⟩) := by
  have names : (cells.map fieldName).Nodup := by
    refine List.pairwise_map.mpr ((List.pairwise_map.mp distinct).imp_of_mem ?_)
    intro c d inCells inCells' apart same
    exact apart ((data c inCells).column_eq (data d inCells') same)
  have filled : Utf8.toStringLossy row ≠ "" := by
    intro empty
    rw [← isText.ofString_toStringLossy, empty] at keyed
    exact keyed rfl
  have rowKey : (rewriting f family).rowKey? ((.text f, .text (Utf8.toStringLossy row)) ::
      cells.map field ++ [(.text timestampField, newestOf cells)]) =
        .ok (some (.text (Utf8.toStringLossy row))) :=
    Layout.rowKey?_of_text rfl Value.lookup_same filled
  have dated : (rewriting f family).timestampOf
      ((.text f, .text (Utf8.toStringLossy row)) :: cells.map field ++
        [(.text timestampField, newestOf cells)]) = .ok (newestOf cells) := by
    refine congrArg Except.ok ((Value.lookup_append ?_).trans Value.lookup_same)
    refine List.forall_mem_cons.mpr ⟨decide_eq_false other, List.forall_mem_map.mpr fun c _ => ?_⟩
    exact decide_eq_false (fieldName_ne colon_not_mem_timestampField c).symm
  refine ⟨_, ofRow_eq plain other row names, ?_⟩
  refine (toRequest_eq rowKey dated (mapM_cell? plain data _ _) rfl
    (timestamp?_newestOf cells)).trans ?_
  have cellsOnly : (none :: cells.map (fun c => some (Cell.rewritten c)) ++ [none]).filterMap id =
      cells.map Cell.rewritten := by
    simp [List.filterMap_map]
  rw [cellsOnly]
  change Except.ok (some (PutRequest.mk _ (some (Utf8.ofString _)) _ _)) = _
  rw [isText.ofString_toStringLossy]

/-- A row with a qualifier that has a colon itself, a family without a name and an empty value. -/
theorem requestOf_ofRow_nested_colon :
    let text := fun s => Utf8.ofString s
    let cells := [Cell.ofColumn (text "é1") (text "cf:a:b") (text "x") 9,
      Cell.ofBytes (text "é1") [] (text "__q") [] 7]
    ∃ record, ofRow (.text "id") (some (text "é1")) cells = .ok record ∧
      requestOf (rewriting "id" .null) (some "t") (.dict record) =
        .ok (some ⟨some "t", some (text "é1"),
          [⟨some (text "cf"), some (text "a:b"), some (text "x"), none⟩,
            ⟨some [], some (text "__q"), some [], none⟩], some 9⟩) := by
  intro text cells
  refine requestOf_ofRow (by decide) (by decide) .null (some "t") (by decide) ⟨"é1", rfl⟩ ?_
    (by decide)
  intro c member
  rcases List.mem_pair.mp member with rfl | rfl
  · exact ⟨⟨"cf", by decide⟩, ⟨"a:b", by decide⟩, ⟨"x", by decide⟩, by decide, by decide⟩
  · exact ⟨⟨"", by decide⟩, ⟨"__q", by decide⟩, ⟨"", by decide⟩, by decide, by decide⟩

end Record
end WideColumn
