import WideColumn.Proofs.Read.Cells
import WideColumn.Proofs.Record.Rows
import WideColumn.Proofs.Service.Writing

/-! Published records, scanned again. The fields that a record writes come back as columns of a
gateway row, in whatever order; its record has the row key, each of these fields under the name of
its column, and the timestamp of the row. -/
namespace WideColumn

open Store (Event)

namespace Record

/-- A record all of whose fields are texts. -/
def ofTexts (fields : List (String × String)) : Record :=
  fields.map fun e => (.text e.1, .text e.2)

/-- Whether a field is written: the row key is not, nor is what is about the record. -/
def isDataName (f name : String) : Bool := !isMetadata name && name ≠ f

/-- The name of the column of a field. A field that names no family goes to the given one. -/
def columnName (family name : String) : String :=
  if ':' ∈ name.toList then name else joined family name

/-- How records are written as text, with their row keys in a field. -/
def textLayout (f family : String) : Layout where
  columnFamily := .text family
  rowKeyField := .text f

/-- The family and the qualifier of a field. -/
def columnParts (family name : String) : String × String := (splitName? name).getD (family, name)

/-- The write of a field. -/
def fieldCell (family : String) (e : String × String) : CellWrite :=
  let (a, b) := columnParts family e.1
  ⟨some (Utf8.ofString a), some (Utf8.ofString b), some (Utf8.ofString e.2), none⟩

/-- The fields of a record that are written. -/
def dataOf (f : String) (fields : List (String × String)) : List (String × String) :=
  fields.filter fun e => isDataName f e.1

/-- The request that writes fields to a row. -/
def fieldRequest (family table key : String) (fields : List (String × String)) : PutRequest :=
  ⟨some table, some (Utf8.ofString key), fields.map (fieldCell family), none⟩

variable {f family key table : String} {fields : List (String × String)}

theorem joined_columnParts (family name : String) :
    joined (columnParts family name).1 (columnParts family name).2 = columnName family name := by
  unfold columnParts columnName
  split
  · next named =>
    obtain ⟨a, b, plain, rfl⟩ := exists_joined named
    rw [splitName?_joined b plain]
    rfl
  · next plain =>
    rw [splitName?_eq_none plain]
    rfl

theorem colon_mem_columnName (family name : String) : ':' ∈ (columnName family name).toList := by
  rw [← joined_columnParts]
  exact colon_mem_joined _ _

theorem name_fieldCell (family : String) (e : String × String) :
    (fieldCell family e).name = Utf8.ofString (columnName family e.1) := by
  rw [← joined_columnParts, ofString_joined]
  rfl

theorem cell?_text (e : String × String) : (textLayout f family).cell? (.text e.1, .text e.2) =
    .ok (if isDataName f e.1 then some (fieldCell family e) else none) := by
  have writes : (textLayout f family).writes e.1 (.text e.2) = isDataName f e.1 := by
    simp [Layout.writes, textLayout, isDataName, Value.sameKey, Value.isNull, Value.integral?]
  cases data : isDataName f e.1 with
  | false => exact Layout.cell?_of_skipped (writes.trans data)
  | true =>
    have column : (textLayout f family).column e.1 =
        (.text (columnParts family e.1).1, (columnParts family e.1).2) := by
      unfold Layout.column columnParts
      cases splitName? e.1 with
      | none => rfl
      | some parts => rfl
    exact Layout.cell?_of_written (writes.trans data) column rfl

theorem filterMap_id_ite {α β : Type} (p : α → Bool) (g : α → β) (as : List α) :
    (as.map fun a => if p a then some (g a) else none).filterMap id = (as.filter p).map g := by
  rw [List.filterMap_map]
  induction as with
  | nil => rfl
  | cons a as ih =>
    simp only [Function.comp_def, id] at ih ⊢
    by_cases h : p a <;> simp [h, ih]

/-- The request of a record that has a row key. -/
theorem requestOf_ofTexts (names : (fields.map Prod.fst).Nodup) (keyed : (f, key) ∈ fields)
    (filled : key ≠ "") : requestOf (textLayout f family) (some table) (.dict (ofTexts fields)) =
      .ok (some (fieldRequest family table key (dataOf f fields))) := by
  have found : Value.lookup (.text f) (ofTexts fields) = .text key := by
    have once : ((fields.map fun e => (e.1, Value.text e.2)).map Prod.fst).Nodup := by
      rwa [List.map_map]
    have member : (f, Value.text key) ∈ fields.map fun e => (e.1, Value.text e.2) :=
      List.mem_map.mpr ⟨_, keyed, rfl⟩
    have looked := Value.lookup_of_mem once member
    rwa [List.map_map] at looked
  have rowKey : (textLayout f family).rowKey? (ofTexts fields) = .ok (some (.text key)) :=
    Layout.rowKey?_of_text rfl found filled
  have cells : (ofTexts fields).mapM (textLayout f family).cell? =
      .ok (fields.map fun e => if isDataName f e.1 then some (fieldCell family e) else none) := by
    refine mapM_of_forall₂ ?_
    rw [ofTexts, List.forall₂_map_left_iff, List.forall₂_map_right_iff, List.forall₂_same]
    exact fun e _ => cell?_text e
  refine (toRequest_eq rowKey rfl cells rfl rfl).trans ?_
  rw [filterMap_id_ite]
  rfl

end Record

namespace GatewayRow

theorem since_eq {row : Bytes} {entries : List (Option Bytes × Option Bytes × Int)}
    {minTimestamp : Int} (known : ∀ e ∈ entries, e.1.isSome ∧ e.2.1.isSome ∧ minTimestamp ≤ e.2.2) :
    since ⟨some row, ⟨entries⟩⟩ minTimestamp = .ok ⟨some row, entries.map (cellOf row)⟩ := by
  let r : GatewayRow := ⟨some row, ⟨entries⟩⟩
  have isKnown : r.IsKnown := ⟨rfl, fun e member => ⟨(known e member).1, (known e member).2.1⟩⟩
  have young : r.young minTimestamp = entries :=
    List.filter_eq_self.mpr fun e member => decide_eq_true (known e member).2.2
  have read := since_eq_young isKnown minTimestamp
  rwa [young] at read

end GatewayRow

namespace Record

variable {f family key : String} {fields : List (String × String)}

/-- What the gateway lists for a field that has been written. -/
def listedField (family : String) (timestamp : Int) (e : String × String) :
    Option Bytes × Option Bytes × Int :=
  (some (Utf8.ofString (columnName family e.1)), some (Utf8.ofString e.2), timestamp)

/-- A listed field becomes a field with the same value under the name of its column. -/
theorem field_listedField (row : Bytes) (timestamp : Int) (e : String × String) :
    field (GatewayRow.cellOf row (listedField family timestamp e)) =
      (.text (columnName family e.1), .text e.2) := by
  obtain ⟨a, b, plain, named⟩ := exists_joined (colon_mem_columnName family e.1)
  have plainBytes : Column.colon ∉ Utf8.ofString a :=
    fun member => plain (Utf8.mem_of_mem_encode (c := ':') rfl (by decide) member)
  obtain ⟨familyBytes, qualifierBytes, valueBytes⟩ := Cell.ofColumn_join row (Utf8.ofString b)
    (Utf8.ofString e.2) timestamp plainBytes
  have parts : GatewayRow.cellOf row (listedField family timestamp e) =
      Cell.ofColumn row (Column.join (Utf8.ofString a) (Utf8.ofString b)) (Utf8.ofString e.2)
        timestamp := by
    rw [← ofString_joined, ← named]
    rfl
  rw [parts, field, fieldName, familyBytes, qualifierBytes, valueBytes,
    Utf8.toStringLossy_ofString, Utf8.toStringLossy_ofString, Utf8.toStringLossy_ofString, named]
  rfl

variable {timestamp minTimestamp : Int}

theorem newestOf_uniform {cells : List Cell} (filled : cells ≠ [])
    (uniform : ∀ c ∈ cells, c.timestamp = timestamp) : newestOf cells = .whole timestamp := by
  have timestamps : cells.map Cell.timestamp = List.replicate cells.length timestamp := by
    refine List.eq_replicate_iff.mpr ⟨List.length_map _, List.forall_mem_map.mpr uniform⟩
  rw [newestOf, ScannedRow.newest?_eq_max?, timestamps,
    List.max?_replicate_of_pos (List.length_pos_iff.mpr filled)]

/-- The record of a row whose columns are listed in any order. -/
theorem ofRow_listed (plain : ':' ∉ f.toList) (other : f ≠ timestampField) (row : Bytes)
    (filled : fields ≠ [])
    (distinct : (fields.map fun e => columnName family e.1).Nodup)
    (recent : minTimestamp ≤ timestamp)
    {listed : OrderedMap (Option Bytes) (Option Bytes × Int)}
    (all : listed.entries.Perm (fields.map (listedField family timestamp))) :
    ∃ scanned record, GatewayRow.since ⟨some row, listed⟩ minTimestamp = .ok scanned ∧
      ofRow (.text f) scanned.key scanned.cells = .ok record ∧
      record.Perm ((.text f, .text (Utf8.toStringLossy row)) ::
        fields.map (fun e => (.text (columnName family e.1), .text e.2)) ++
        [(.text timestampField, .whole timestamp)]) := by
  have known : ∀ e ∈ listed.entries, e.1.isSome ∧ e.2.1.isSome ∧ minTimestamp ≤ e.2.2 := by
    intro e member
    obtain ⟨d, -, rfl⟩ := List.mem_map.mp (all.mem_iff.mp member)
    exact ⟨rfl, rfl, recent⟩
  have fieldsOf : ((listed.entries.map (GatewayRow.cellOf row)).map field).Perm
      (fields.map fun e => (.text (columnName family e.1), .text e.2)) := by
    refine ((all.map (GatewayRow.cellOf row)).map field).trans (.of_eq ?_)
    rw [List.map_map, List.map_map]
    exact List.map_congr_left fun e _ => field_listedField row timestamp e
  have names : ((listed.entries.map (GatewayRow.cellOf row)).map fieldName).Nodup := by
    have asTexts : (fields.map fun e => Value.text (columnName family e.1)).Nodup := by
      have texts := distinct.map (f := Value.text) fun _ _ => Value.text.inj
      rwa [List.map_map] at texts
    have listedNames := fieldsOf.map Prod.fst
    rw [List.map_map, List.map_map (l := fields)] at listedNames
    have once := listedNames.nodup_iff.mpr asTexts
    exact List.Nodup.of_map Value.text (by rwa [List.map_map])
  have newest : newestOf (listed.entries.map (GatewayRow.cellOf row)) = .whole timestamp := by
    refine newestOf_uniform ?_ (List.forall_mem_map.mpr fun e member => ?_)
    · intro none
      rw [List.map_eq_nil_iff.mp none] at all
      exact filled (List.map_eq_nil_iff.mp all.nil_eq.symm)
    · obtain ⟨d, -, rfl⟩ := List.mem_map.mp (all.mem_iff.mp member)
      rfl
  refine ⟨_, _, GatewayRow.since_eq known, ofRow_eq plain other row names, ?_⟩
  rw [newest]
  exact (fieldsOf.cons _).append_right _

theorem cells_fieldRequest (table : String) :
    (fieldRequest family table key fields).cells = fields.map (fieldCell family) := by
  rw [PutRequest.cells, fieldRequest, List.map_map]
  exact List.map_congr_left fun e _ => rfl

/-- A gateway is sent the fields of a record as it lists them later. -/
theorem sent_fieldRequest (family table key : String) (fields : List (String × String))
    (timestamp : Int) :
    (Store.sent table (some (Utf8.ofString key)) (Store.putEvents .gateway table
      (Mutation.batch [fieldRequest family table key fields]))).map
        (fun s => (some s.column, s.value, timestamp)) =
      fields.map (listedField family timestamp) := by
  have sent := Store.sent_putEvents table (some (Utf8.ofString key))
    [Mutation.batch [fieldRequest family table key fields]]
  rw [List.flatMap_singleton, List.flatMap_singleton, Mutation.cellsOf_batch] at sent
  have cells : PutRequest.cellsOf (some (Utf8.ofString key))
      [fieldRequest family table key fields] = fields.map (fieldCell family) :=
    (PutRequest.cellsOf_self _).trans (cells_fieldRequest table)
  rw [sent, cells, List.map_map, List.map_map]
  refine List.map_congr_left fun e _ => ?_
  rw [listedField, ← name_fieldCell]
  rfl

/-- A record that is published and scanned again. A table put of the request of a record, whose row
key is a text and whose fields are texts for different columns, reaches a gateway as cells that are
read back as the record: it has the row key, every field that is written under the name of its
column, and the timestamp of the row, in whatever order the columns are listed. -/
theorem ofRow_of_put (plain : ':' ∉ f.toList) (other : f ≠ timestampField)
    (names : (fields.map Prod.fst).Nodup) (keyed : (f, key) ∈ fields) (filled : key ≠ "")
    (data : dataOf f fields ≠ [])
    (distinct : ((dataOf f fields).map fun e => columnName family e.1).Nodup)
    (recent : minTimestamp ≤ timestamp) (table : String) {connection : Connection}
    (gateway : connection.backend = .gateway) {c : Client} (reliable : c.store.IsReliable) :
    ∃ request c' log,
      requestOf (textLayout f family) (some table) (.dict (ofTexts fields)) =
        .ok (some request) ∧
      Client.writeTable connection table (Mutation.batch [request]) c = (.ok (), c') ∧
      c'.store.log = c.store.log ++ log ∧
      ∀ listed : OrderedMap (Option Bytes) (Option Bytes × Int),
        listed.entries.Perm ((Store.sent table request.row log).map fun s =>
          (some s.column, s.value, timestamp)) →
        ∃ scanned record, GatewayRow.since ⟨request.row, listed⟩ minTimestamp = .ok scanned ∧
          ofRow (.text f) scanned.key scanned.cells = .ok record ∧
          record.Perm ((.text f, .text key) ::
            (dataOf f fields).map (fun e => (.text (columnName family e.1), .text e.2)) ++
            [(.text timestampField, .whole timestamp)]) := by
  have named : ∀ m ∈ Mutation.batch [fieldRequest family table key (dataOf f fields)],
      ∀ cell ∈ m.cells, cell.IsNamed := by
    intro m member cell inRow
    obtain rfl := List.mem_singleton.mp member
    obtain ⟨column, inColumns, rfl⟩ := List.mem_map.mp inRow
    obtain ⟨e, -, rfl⟩ := List.mem_map.mp inColumns
    exact ⟨rfl, rfl⟩
  obtain ⟨c', wrote, changed⟩ := Client.writeTable_ends reliable table connection fun _ => named
  refine ⟨_, c', _, requestOf_ofTexts names keyed filled, wrote, changed.log, ?_⟩
  intro listed all
  rw [gateway] at all
  have sent := sent_fieldRequest family table key (dataOf f fields) timestamp
  obtain ⟨scanned, record, read, made, same⟩ := ofRow_listed plain other (Utf8.ofString key) data
    distinct recent (all.trans (.of_eq sent))
  rw [Utf8.toStringLossy_ofString] at same
  exact ⟨scanned, record, read, made, same⟩

/-- A record with a field without a family, one whose qualifier has a colon and one whose family
has no name, which is read back from columns in another order. -/
theorem ofRow_of_put_reordered :
    let fields := [("id", "é1"), ("a", "1"), ("m:b:c", "2"), (":q", ""), ("__engine", "x")]
    let request := fieldRequest "cf" "t" "é1" [("a", "1"), ("m:b:c", "2"), (":q", "")]
    let columns := [("m:b:c", "2"), ("cf:a", "1"), (":q", "")]
    let listed : OrderedMap (Option Bytes) (Option Bytes × Int) :=
      ⟨columns.map fun e => (some (Utf8.ofString e.1), some (Utf8.ofString e.2), 9)⟩
    requestOf (textLayout "id" "cf") (some "t") (.dict (ofTexts fields)) = .ok (some request) ∧
      ∃ scanned record, GatewayRow.since ⟨request.row, listed⟩ 0 = .ok scanned ∧
        ofRow (.text "id") scanned.key scanned.cells = .ok record ∧
        record.Perm [(.text "id", .text "é1"), (.text "cf:a", .text "1"),
          (.text "m:b:c", .text "2"), (.text ":q", .text ""), (.text "__timestamp", .whole 9)] := by
  intro fields request columns listed
  let service : Service := { name := "s", settings := ∅, backend := .gateway }
  have converted : requestOf (textLayout "id" "cf") (some "t") (.dict (ofTexts fields)) =
      .ok (some request) := by decide +kernel
  have distinct : ((dataOf "id" fields).map fun e => columnName "cf" e.1).Nodup := by
    decide +kernel
  obtain ⟨request', c', log, made, wrote, logged, reads⟩ :=
    ofRow_of_put (f := "id") (by decide) (by decide) (by decide)
      (show ("id", "é1") ∈ fields by decide) (by decide) (by decide) distinct
      (show (0 : Int) ≤ 9 by decide) "t"
      (show (Connection.mk 1 .gateway).backend = .gateway from rfl)
      (c := ⟨service, {}, {}⟩) (fun _ _ => rfl)
  obtain rfl := Option.some.inj (Except.ok.inj (converted.symm.trans made))
  refine ⟨converted, reads listed ?_⟩
  have ended : (Client.writeTable ⟨1, .gateway⟩ "t" (Mutation.batch [request])
      ⟨service, {}, {}⟩).2.store.log = log := (congrArg (·.2.store.log) wrote).trans logged
  rw [← ended]
  decide +kernel

end Record
end WideColumn
