import WideColumn.Proofs.Record.Requests

/-! Records field by field: what their requests have of each of them. A field is looked up for the
row key, another one for the timestamp if the layout has a name for it, and the data among the rest
becomes the columns. The empty text names no timestamp; a field that has it for its name is data,
and is lost under such a layout. -/
namespace WideColumn

namespace Value

theorem sameKey_text_iff {name : String} {field : Value} :
    (text name).sameKey field = true ↔ field = .text name := by
  cases field with
  | text other => simp [sameKey, eq_comm]
  | double x => cases whole : x.whole? <;> simp [sameKey, integral?, whole]
  | _ => simp [sameKey, integral?]

theorem isNull_iff {value : Value} : value.isNull = true ↔ value = .null := by
  cases value <;> simp [isNull]

instance (field : Value) (name : String) : Decidable (field = .text name) :=
  decidable_of_iff _ sameKey_text_iff

instance (value : Value) : Decidable (value = .null) := decidable_of_iff _ isNull_iff

end Value

namespace Record

/-- The record of fields that have texts for names. -/
def ofFields (fields : List (String × Value)) : Record := fields.map fun e => (.text e.1, e.2)

/-- The value that a record has in a configured field. Null is no value. -/
structure Fills (field : Value) (fields : List (String × Value)) (value : Value) : Prop where
  named : ∃ name, field = .text name ∧ (name, value) ∈ fields
  notNull : value ≠ .null

namespace Layout

/-- The name of the field that the timestamp is in. A layout that names it by the empty text has no
such field, and takes no timestamp from a record. -/
def DatedBy (layout : Layout) (name : String) : Prop :=
  layout.timestampField = .text name ∧ name ≠ ""

/-- The fields that are data: neither about the record nor null, and looked up for nothing else. -/
structure IsData (layout : Layout) (e : String × Value) : Prop where
  notMetadata : ¬ ['_', '_'] <+: e.1.toList
  notRowKey : layout.rowKeyField ≠ .text e.1
  notTimestamp : ¬ layout.DatedBy e.1
  notNull : e.2 ≠ .null

/-- The fields that are written. -/
structure IsWritten (layout : Layout) (e : String × Value) : Prop extends layout.IsData e where
  other : layout.timestampField ≠ .text e.1

section
variable {layout : Layout} {e : String × Value}

theorem writes_iff : layout.writes e.1 e.2 = true ↔ layout.IsWritten e := by
  have metadata : isMetadata e.1 = true ↔ ['_', '_'] <+: e.1.toList := List.isPrefixOf_iff_prefix
  simp only [writes, Bool.and_eq_true, Bool.not_eq_true', ← Bool.not_eq_true, metadata,
    Value.sameKey_text_iff, Value.isNull_iff]
  constructor
  · rintro ⟨⟨⟨notMetadata, notRowKey⟩, other⟩, notNull⟩
    exact ⟨⟨notMetadata, notRowKey, fun dated => other dated.1, notNull⟩, other⟩
  · rintro ⟨⟨notMetadata, notRowKey, -, notNull⟩, other⟩
    exact ⟨⟨⟨notMetadata, notRowKey⟩, other⟩, notNull⟩

instance : Decidable (layout.IsWritten e) := decidable_of_iff _ writes_iff

theorem decide_isWritten : decide (layout.IsWritten e) = layout.writes e.1 e.2 := by
  rw [Bool.eq_iff_iff, decide_eq_true_iff, writes_iff]

instance : Decidable (layout.IsData e) :=
  decidable_of_iff (¬ ['_', '_'] <+: e.1.toList ∧ layout.rowKeyField ≠ .text e.1 ∧
      ¬ (layout.timestampField = .text e.1 ∧ e.1 ≠ "") ∧ e.2 ≠ .null)
    ⟨fun ⟨a, b, c, d⟩ => ⟨a, b, c, d⟩, fun ⟨a, b, c, d⟩ => ⟨a, b, c, d⟩⟩

end

/-- The record has a field without a name, which is data, and the layout names the timestamp by the
empty text. -/
def LosesNameless (layout : Layout) (fields : List (String × Value)) : Prop :=
  layout.timestampField = .text "" ∧ ∃ value, ("", value) ∈ fields ∧ layout.IsData ("", value)

/-- The cell of a field: its column is in the family that the name has in front of the first colon,
or in the family of the layout. -/
inductive CellOf (layout : Layout) : String × Value → CellWrite → Prop
  | own {family qualifier : String} {value : Value} {b : Bytes} (plain : ':' ∉ family.toList)
      (encoded : value.encode layout.valueEncoding = .ok b) :
      CellOf layout (family ++ ":" ++ qualifier, value)
        ⟨some (Utf8.ofString family), some (Utf8.ofString qualifier), some b, none⟩
  | given {name : String} {value : Value} {family : Option Bytes} {b : Bytes}
      (plain : ':' ∉ name.toList) (encoded : value.encode layout.valueEncoding = .ok b)
      (converted : layout.columnFamily.toBytes? = .ok family) :
      CellOf layout (name, value) ⟨family, some (Utf8.ofString name), some b, none⟩

/-- The timestamp of a record: the number in its timestamp field, or none. -/
inductive Dated (layout : Layout) (fields : List (String × Value)) : Option Int → Prop
  | read {name : String} {value : Value} {timestamp : Int} (field : layout.DatedBy name)
      (member : (name, value) ∈ fields) (notNull : value ≠ .null)
      (number : value.toInteger = .ok timestamp) : Dated layout fields (some timestamp)
  | none (absent : ∀ name value, layout.DatedBy name → (name, value) ∈ fields → value = .null) :
      Dated layout fields none

/-- What the request of a record is made of. -/
structure Makes (layout : Layout) (table : Option String) (fields : List (String × Value))
    (request : PutRequest) : Prop where
  table : request.table = table
  row : ∃ key, Fills layout.rowKeyField fields key ∧ key ≠ .text "" ∧
    request.row = some (key.encodeRowKey layout.rowKeyEncoding)
  columns : List.Forall₂ layout.CellOf (fields.filter fun e => decide (layout.IsWritten e))
    request.columns
  timestamp : layout.Dated fields request.timestamp

end Layout

/-! The parts of a request. -/

variable {layout : Layout} {fields : List (String × Value)} {field key value given : Value}

theorem fills_iff (once : (fields.map Prod.fst).Nodup) :
    Fills field fields value ↔ Value.lookup field (ofFields fields) = value ∧ value ≠ .null := by
  constructor
  · rintro ⟨⟨name, rfl, member⟩, notNull⟩
    exact ⟨Value.lookup_of_mem once member, notNull⟩
  · rintro ⟨found, notNull⟩
    refine ⟨?_, notNull⟩
    clear once
    induction fields with
    | nil => exact absurd found.symm notNull
    | cons e fields ih =>
      simp only [ofFields, List.map_cons, Value.lookup] at found
      split at found
      · next same => exact ⟨e.1, Value.sameKey_text_iff.mp same, found ▸ .head _⟩
      · obtain ⟨name, named, member⟩ := ih found
        exact ⟨name, named, .tail _ member⟩

theorem lookup_of_lookupIn {r : Record} (found : field.lookupIn r = .ok value) :
    Value.lookup field r = value := by
  obtain ⟨key, isKey, same⟩ := map_eq_ok_iff.mp found
  unfold Value.key at isKey
  split at isKey
  · cases isKey
    exact same
  · cases isKey

theorem rowKey?_eq_ok (once : (fields.map Prod.fst).Nodup) {key? : Option Value}
    (read : layout.rowKey? (ofFields fields) = .ok key?) (key : Value) :
    key? = some key ↔ Fills layout.rowKeyField fields key ∧ key ≠ .text "" := by
  obtain ⟨value, found, keyed⟩ := Layout.exists_of_rowKey? read
  rw [fills_iff once, lookup_of_lookupIn found, and_assoc]
  exact keyed key

theorem cellOf_of_cell? (e : String × Value) (cell : CellWrite)
    (made : layout.cell? (.text e.1, e.2) = .ok (some cell)) : layout.CellOf e cell := by
  obtain ⟨name, value⟩ := e
  obtain ⟨_, ⟨⟩, made⟩ := bind_eq_ok_iff.mp made
  split at made
  · by_cases named : ':' ∈ name.toList
    · obtain ⟨family, qualifier, plain, rfl⟩ := exists_joined named
      have column : layout.column (joined family qualifier) = (.text family, qualifier) := by
        rw [Layout.column, splitName?_joined qualifier plain]
      rw [column] at made
      obtain ⟨b, encoded, made⟩ := bind_eq_ok_iff.mp made
      cases made
      exact .own plain (mapError_eq_ok_iff.mp encoded)
    · have column : layout.column name = (layout.columnFamily, name) := by
        rw [Layout.column, splitName?_eq_none named]
      rw [column] at made
      obtain ⟨b, encoded, made⟩ := bind_eq_ok_iff.mp made
      obtain ⟨family, converted, made⟩ := bind_eq_ok_iff.mp made
      cases made
      exact .given named (mapError_eq_ok_iff.mp encoded) (mapError_eq_ok_iff.mp converted)
  · cases made

/-- The cells are those of the fields that are written, one for each and in their order. -/
theorem cellOf_of_mapM {cells : List (Option CellWrite)}
    (converted : (ofFields fields).mapM layout.cell? = .ok cells) :
    List.Forall₂ layout.CellOf (fields.filter fun e => decide (layout.IsWritten e))
      (cells.filterMap id) := by
  have each := forall₂_of_mapM converted
  rw [ofFields, List.forall₂_map_left_iff] at each
  have written := written_of_forall₂ cellOf_of_cell? each
  rwa [List.filter_congr fun e _ => Layout.decide_isWritten (e := e)]

theorem isSet_of_datedBy {name : String} (dated : layout.DatedBy name) :
    layout.timestampField.isSet = true := by
  obtain ⟨field, filled⟩ := dated
  rw [field, Value.isSet, Bool.not_eq_true', ← Bool.not_eq_true, String.isEmpty_iff]
  exact filled

theorem dated_of_timestampOf (once : (fields.map Prod.fst).Nodup)
    (found : layout.timestampOf (ofFields fields) = .ok given) {timestamp : Option Int}
    (read : timestamp? given = .ok timestamp) : layout.Dated fields timestamp := by
  unfold Layout.timestampOf at found
  split at found
  · next set =>
    have looked := lookup_of_lookupIn found
    by_cases isNull : given = .null
    · subst isNull
      cases read
      refine .none fun name value dated member => ?_
      rw [dated.1, ofFields, Value.lookup_of_mem once member] at looked
      exact looked
    · obtain ⟨⟨name, field, member⟩, notNull⟩ := (fills_iff once).mpr ⟨looked, isNull⟩
      have dated : layout.DatedBy name := by
        refine ⟨field, ?_⟩
        rintro rfl
        rw [field] at set
        cases set
      have number : ∃ n, given.toInteger = .ok n ∧ some n = timestamp := by
        cases given with
        | null => exact absurd rfl isNull
        | _ => exact map_eq_ok_iff.mp read
      obtain ⟨n, number, rfl⟩ := number
      exact .read dated member notNull number
  · next unset =>
    cases found
    cases read
    exact .none fun name value dated => absurd (isSet_of_datedBy dated) unset

/-! Data that is not written. -/

theorem filter_isWritten_sublist (layout : Layout) (fields : List (String × Value)) :
    (fields.filter fun e => decide (layout.IsWritten e)).Sublist
      (fields.filter fun e => decide (layout.IsData e)) := by
  refine List.monotone_filter_right fields fun e written => ?_
  exact decide_eq_true (of_decide_eq_true written).toIsData

/-- All data is written, unless a field without a name is lost. -/
theorem filter_isWritten_eq_iff :
    (fields.filter fun e => decide (layout.IsWritten e)) =
      (fields.filter fun e => decide (layout.IsData e)) ↔ ¬ layout.LosesNameless fields := by
  constructor
  · rintro all ⟨nameless, value, member, data⟩
    have written : ("", value) ∈ fields.filter fun e => decide (layout.IsWritten e) := by
      rw [all]
      exact List.mem_filter.mpr ⟨member, decide_eq_true data⟩
    exact (of_decide_eq_true (List.mem_filter.mp written).2).other nameless
  · intro kept
    refine List.filter_congr fun e member => decide_eq_decide.mpr ⟨fun h => h.toIsData, ?_⟩
    intro data
    refine ⟨data, fun named => kept ?_⟩
    obtain ⟨name, value⟩ := e
    have nameless : name = "" := by
      by_contra filled
      exact data.notTimestamp ⟨named, filled⟩
    subst nameless
    exact ⟨named, value, member, data⟩

/-- What a record is converted to, if it can be. It makes no request if there is no value in the
field for its row key, or an empty text. Otherwise its request is for that row, has one column for
each field that is written, in their order, and the timestamp from the field that the layout names.
The fields that are written are all of the data, with one exception: where the layout has the empty
text for the name of the timestamp, a field without a name is lost. -/
theorem toRequest_fields {layout : Layout} {table : Option String}
    {fields : List (String × Value)} {result : Option PutRequest}
    (once : (fields.map Prod.fst).Nodup)
    (made : toRequest layout table (ofFields fields) = .ok result) :
    (result = none ↔ ∀ key, Fills layout.rowKeyField fields key → key = .text "") ∧
      ∀ request, result = some request → layout.Makes table fields request ∧
        (List.Forall₂ layout.CellOf (fields.filter fun e => decide (layout.IsData e))
          request.columns ↔ ¬ layout.LosesNameless fields) := by
  obtain ⟨key?, found, made⟩ := bind_eq_ok_iff.mp made
  have keyed := rowKey?_eq_ok once (mapError_eq_ok_iff.mp found)
  cases key? with
  | none =>
    cases made
    refine ⟨iff_of_true rfl fun key fills => ?_, nofun⟩
    by_contra filled
    cases (keyed key).mpr ⟨fills, filled⟩
  | some key =>
    obtain ⟨given, dated, made⟩ := bind_eq_ok_iff.mp made
    obtain ⟨cells, converted, made⟩ := bind_eq_ok_iff.mp made
    obtain ⟨row, written, made⟩ := bind_eq_ok_iff.mp made
    obtain ⟨timestamp, read, made⟩ := bind_eq_ok_iff.mp made
    cases made
    obtain ⟨-, rfl⟩ := Value.toRowKey_eq_ok_iff.mp (mapError_eq_ok_iff.mp written)
    obtain ⟨fills, filled⟩ := (keyed key).mp rfl
    refine ⟨iff_of_false nofun fun empty => filled (empty key fills), ?_⟩
    rintro request ⟨⟩
    have columns := cellOf_of_mapM converted
    refine ⟨⟨rfl, ⟨key, fills, filled, rfl⟩, columns, ?_⟩, ?_⟩
    · exact dated_of_timestampOf once (mapError_eq_ok_iff.mp dated) (mapError_eq_ok_iff.mp read)
    · rw [← filter_isWritten_eq_iff]
      constructor
      · intro all
        refine (filter_isWritten_sublist layout fields).eq_of_length ?_
        exact columns.length_eq.trans all.length_eq.symm
      · exact fun same => same ▸ columns

/-- A layout with the empty text for the name of the timestamp loses the field without a name. -/
theorem toRequest_fields_nameless :
    let layout : Layout := { timestampField := .text "" }
    let fields : List (String × Value) :=
      [(defaultRowKeyField, .text "r"), ("", .text "5"), ("a", .text "1")]
    let request : PutRequest := ⟨some "t", some (Utf8.ofString "r"),
      [⟨some (Utf8.ofString "cf"), some (Utf8.ofString "a"), some (Utf8.ofString "1"), none⟩], none⟩
    toRequest layout (some "t") (ofFields fields) = .ok (some request) ∧
      layout.Makes (some "t") fields request ∧
      ¬ List.Forall₂ layout.CellOf (fields.filter fun e => decide (layout.IsData e))
        request.columns := by
  intro layout fields request
  have made : toRequest layout (some "t") (ofFields fields) = .ok (some request) := by
    decide +kernel
  obtain ⟨makes, kept⟩ := (toRequest_fields (by decide) made).2 request rfl
  have data : layout.IsData ("", .text "5") := by decide
  have lost : layout.LosesNameless fields := ⟨rfl, .text "5", .tail _ (.head _), data⟩
  exact ⟨made, makes, fun all => kept.mp all lost⟩

end Record
end WideColumn
