import WideColumn.Proofs.Except
import WideColumn.Proofs.Record.Names
import WideColumn.Record.Request

/-! Requests of records. The row key and the timestamp are looked up in the record; every other
field is a cell, or is left out because of its name. -/
namespace WideColumn

namespace Value

variable {name other : String} {value : Value} {rest : List (Value × Value)}

theorem lookup_same : lookup (.text name) ((.text name, value) :: rest) = value := by
  simp [lookup, sameKey]

theorem lookup_other (differs : other ≠ name) :
    lookup (.text name) ((.text other, value) :: rest) = lookup (.text name) rest := by
  simp [lookup, sameKey, differs]

theorem lookup_append {entries : List (Value × Value)}
    (absent : ∀ e ∈ entries, e.1.sameKey (.text name) = false) :
    lookup (.text name) (entries ++ rest) = lookup (.text name) rest := by
  induction entries with
  | nil => rfl
  | cons entry entries ih =>
    obtain ⟨differs, absent⟩ := List.forall_mem_cons.mp absent
    simp [lookup, differs, ih absent]

/-- The value of a field, wherever it stands, if no other field has its name. -/
theorem lookup_of_mem {entries : List (String × Value)} (once : (entries.map Prod.fst).Nodup)
    (member : (name, value) ∈ entries) :
    lookup (.text name) (entries.map fun e => (.text e.1, e.2)) = value := by
  induction entries with
  | nil => cases member
  | cons entry entries ih =>
    obtain ⟨absent, once⟩ := List.nodup_cons.mp once
    rcases List.mem_cons.mp member with rfl | later
    · exact lookup_same
    · have differs : entry.1 ≠ name := by
        rintro rfl
        exact absent (List.mem_map.mpr ⟨_, later, rfl⟩)
      rw [List.map_cons, lookup_other differs]
      exact ih once later

theorem toRowKey_eq_ok_iff {encoding : RowKeyEncoding} {b : Bytes} :
    value.toRowKey encoding = .ok b ↔ value.hasText = true ∧ value.encodeRowKey encoding = b := by
  unfold toRowKey
  split
  · next has => simp [has]
  · next lacks => simp [lacks]

end Value

namespace Record

variable {layout : Layout} {r : Record} {name : String} {value key given : Value}

theorem toRequest_eq {table : Option String} {cells : List (Option CellWrite)}
    {timestamp : Option Int} (keyed : layout.rowKey? r = .ok (some key))
    (dated : layout.timestampOf r = .ok given) (converted : r.mapM layout.cell? = .ok cells)
    (has : key.hasText = true) (read : timestamp? given = .ok timestamp) :
    toRequest layout table r =
      .ok (some ⟨table, some (key.encodeRowKey layout.rowKeyEncoding), cells.filterMap id,
        timestamp⟩) := by
  have written : key.toRowKey layout.rowKeyEncoding = .ok (key.encodeRowKey _) :=
    Value.toRowKey_eq_ok_iff.mpr ⟨has, rfl⟩
  simp only [toRequest, keyed, dated, converted, written, read, Except.mapError, bind, Except.bind]
  rfl

/-- The columns of a request are the cells of its record. -/
theorem cells_of_toRequest {table : Option String} {request : PutRequest}
    (made : toRequest layout table r = .ok (some request)) : request.table = table ∧
      ∃ cells, List.Forall₂ (fun field cell => layout.cell? field = .ok cell) r cells ∧
        request.columns = cells.filterMap id := by
  obtain ⟨key?, -, made⟩ := bind_eq_ok_iff.mp made
  cases key? with
  | none => cases made
  | some key =>
    obtain ⟨given, -, made⟩ := bind_eq_ok_iff.mp made
    obtain ⟨cells, converted, made⟩ := bind_eq_ok_iff.mp made
    obtain ⟨row, -, made⟩ := bind_eq_ok_iff.mp made
    obtain ⟨timestamp, -, made⟩ := bind_eq_ok_iff.mp made
    cases made
    exact ⟨rfl, cells, forall₂_of_mapM converted, rfl⟩

/-- A request has the cells of its record. -/
theorem of_toRequest {table : Option String} {request : PutRequest}
    (made : toRequest layout table r = .ok (some request)) :
    request.table = table ∧
      ∀ cell ∈ request.columns, ∃ field ∈ r, layout.cell? field = .ok (some cell) := by
  obtain ⟨sameTable, cells, converted, columns⟩ := cells_of_toRequest made
  refine ⟨sameTable, fun cell member => ?_⟩
  rw [columns] at member
  obtain ⟨_, inCells, rfl⟩ := List.mem_filterMap.mp member
  exact exists_of_forall₂ (List.Forall₂.flip converted) inCells

namespace Layout

theorem cell?_of_skipped (skipped : layout.writes name value = false) :
    layout.cell? (.text name, value) = .ok none := by
  simp only [cell?, textToStart, Except.mapError, bind, Except.bind, skipped]
  rfl

theorem cell?_of_written {family qualifier : String} {b : Bytes}
    (written : layout.writes name value = true)
    (column : layout.column name = (.text family, qualifier))
    (encoded : value.encode layout.valueEncoding = .ok b) :
    layout.cell? (.text name, value) =
      .ok (some ⟨some (Utf8.ofString family), some (Utf8.ofString qualifier), some b, none⟩) := by
  simp only [cell?, textToStart, Except.mapError, bind, Except.bind, written, column, encoded]
  rfl

/-- A field that is a cell, or is left out, has a text for its name. -/
theorem text_of_cell? {field : Value × Value} {cell : Option CellWrite}
    (made : layout.cell? field = .ok cell) :
    ∃ name, field.1 = .text name ∧ cell.isSome = layout.writes name field.2 := by
  obtain ⟨name, isText, made⟩ := bind_eq_ok_iff.mp made
  have text : field.1 = .text name := by
    have started := mapError_eq_ok_iff.mp isText
    unfold textToStart at started
    split at started
    · next same =>
      cases started
      exact same
    · cases started
    · cases started
  refine ⟨name, text, ?_⟩
  cases written : layout.writes name field.2 with
  | false =>
    rw [written] at made
    cases made
    rfl
  | true =>
    rw [written] at made
    obtain ⟨value, -, made⟩ := bind_eq_ok_iff.mp made
    obtain ⟨family, -, made⟩ := bind_eq_ok_iff.mp made
    cases made
    rfl

/-- A cell that is written has a qualifier. -/
theorem qualifier_of_cell? {field : Value × Value} {cell : CellWrite}
    (made : layout.cell? field = .ok (some cell)) : cell.qualifier.isSome := by
  obtain ⟨name, -, made⟩ := bind_eq_ok_iff.mp made
  cases written : layout.writes name field.2 with
  | false =>
    rw [written] at made
    cases made
  | true =>
    rw [written] at made
    obtain ⟨value, -, made⟩ := bind_eq_ok_iff.mp made
    obtain ⟨family, -, made⟩ := bind_eq_ok_iff.mp made
    cases made
    rfl

/-- The row key is what is looked up, unless that is null or the empty text. -/
theorem exists_of_rowKey? {key? : Option Value} (found : layout.rowKey? r = .ok key?) :
    ∃ value, layout.rowKeyField.lookupIn r = .ok value ∧
      ∀ key, key? = some key ↔ value = key ∧ key ≠ .null ∧ key ≠ .text "" := by
  obtain ⟨value, looked, same⟩ := map_eq_ok_iff.mp found
  refine ⟨value, looked, fun key => ?_⟩
  cases value with
  | null =>
    cases same
    exact ⟨nofun, fun ⟨isNull, notNull, _⟩ => absurd isNull.symm notNull⟩
  | text s =>
    simp only [String.isEmpty_iff] at same
    split at same
    · next isEmpty =>
      cases same
      exact ⟨nofun, fun ⟨isText, _, filled⟩ => absurd (isEmpty ▸ isText.symm) filled⟩
    · next filled =>
      cases same
      constructor
      · rintro ⟨⟩
        exact ⟨rfl, nofun, fun isEmpty => filled (Value.text.inj isEmpty)⟩
      · exact fun ⟨isText, _⟩ => congrArg some isText
  | _ =>
    cases same
    constructor
    · rintro ⟨⟩
      exact ⟨rfl, nofun, nofun⟩
    · exact fun ⟨isKey, _⟩ => congrArg some isKey

theorem rowKey?_of_text {field text : String} (named : layout.rowKeyField = .text field)
    (found : Value.lookup (.text field) r = .text text) (filled : text ≠ "") :
    layout.rowKey? r = .ok (some (.text text)) := by
  have notEmpty : text.isEmpty = false := by simpa using filled
  have looked : layout.rowKeyField.lookupIn r = .ok (.text text) := by
    rw [named, ← found]
    rfl
  simp only [rowKey?, looked, Except.map, notEmpty]
  rfl

end Layout

/-- A record that can be converted has texts for names. -/
theorem named_of_forall₂ {cells : List (Option CellWrite)}
    (converted : List.Forall₂ (fun field cell => layout.cell? field = .ok cell) r cells) :
    ∃ fields : List (String × Value), r = fields.map fun e => (.text e.1, e.2) := by
  induction converted with
  | nil => exact ⟨[], rfl⟩
  | @cons field _ _ _ first _ ih =>
    obtain ⟨fields, rfl⟩ := ih
    obtain ⟨name, text, -⟩ := Layout.text_of_cell? first
    exact ⟨(name, field.2) :: fields, by rw [List.map_cons, ← text]⟩

/-- The cells are those of the fields that are written, in their order. -/
theorem written_of_forall₂ {relation : String × Value → CellWrite → Prop}
    (each : ∀ e cell, layout.cell? (.text e.1, e.2) = .ok (some cell) → relation e cell)
    {fields : List (String × Value)} {cells : List (Option CellWrite)}
    (converted : List.Forall₂ (fun e cell => layout.cell? (.text e.1, e.2) = .ok cell)
      fields cells) :
    List.Forall₂ relation (fields.filter fun e => layout.writes e.1 e.2)
      (cells.filterMap id) := by
  induction converted with
  | nil => exact .nil
  | @cons e cell fields cells first _ ih =>
    obtain ⟨_, ⟨⟩, isCell⟩ := Layout.text_of_cell? first
    rw [List.filter_cons, ← isCell]
    cases cell with
    | none => exact ih
    | some cell => exact .cons (each e cell first) ih

/-- A request for a table, all of whose columns have qualifiers. -/
theorem of_requestOf {table : Option String} {data : Value} {request : PutRequest}
    (made : requestOf layout table data = .ok (some request)) :
    request.table = table ∧ ∀ cell ∈ request.columns, cell.qualifier.isSome := by
  cases data with
  | dict entries =>
    obtain ⟨sameTable, columns⟩ := of_toRequest made
    refine ⟨sameTable, fun cell member => ?_⟩
    obtain ⟨field, -, converted⟩ := columns cell member
    exact Layout.qualifier_of_cell? converted
  | _ => cases made

end Record
end WideColumn
