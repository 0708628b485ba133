import WideColumn.Proofs.Bytes.Utf8
import WideColumn.Proofs.Record.Requests

/-! Row keys of records, and the rows that they become. Every conversion takes a value that is not
empty to a row that is not empty; the one value that has an empty row is the empty byte string. -/
namespace WideColumn

theorem Decimal.Layout.render_ne_nil (x : Binary64) : Value.displayLayout.render x ≠ [] := by
  have place (digits : List Char) (lead : Int) : Value.displayLayout.place digits lead ≠ [] := by
    unfold Decimal.Layout.place
    split
    · split <;> simp
    · simp
  unfold Decimal.Layout.render
  split
  · decide
  · simp [Value.displayLayout]
  · dsimp only
    split
    · simp
    · exact List.append_ne_nil_of_right_ne_nil _ (place _ _)

namespace Value

theorem displayNested_ne_nil (value : Value) : value.displayNested ≠ [] := by
  cases value with
  | null => decide
  | flag b => cases b <;> decide
  | whole n =>
    simp only [displayNested, Text.integer, Text.natural]
    split
    · simp
    · exact Nat.toDigits_ne_nil
  | double x => exact Decimal.Layout.render_ne_nil x
  | text s => simp [displayNested, Text.quoted]
  | bytes b => simp [displayNested, Text.quotedBytes]
  | list items => simp [displayNested]
  | dict entries => simp [displayNested]

theorem display_ne_nil {value : Value} (filled : value ≠ .text "") : value.display ≠ [] := by
  cases value with
  | text s => exact fun empty => filled (congrArg _ (String.toList_eq_nil_iff.mp empty))
  | _ => exact displayNested_ne_nil _

end Value

theorem Utf8.encode_ne_nil {cs : List Char} (filled : cs ≠ []) : encode cs ≠ [] := by
  intro empty
  have back := decodeLossy_encode cs
  rw [empty] at back
  exact filled back.symm

/-- An escape stands for a byte, so some byte is always left. -/
theorem Bytes.unescape_ne_nil {b : Bytes} (filled : b ≠ []) : unescape b ≠ [] := by
  unfold unescape
  split
  · split
    · split <;> simp
    · simp
  · exact filled

/-- Of the values that are no empty text, the empty byte string alone has an empty row. -/
theorem Value.encodeRowKey_eq_nil_iff {key : Value} (filled : key ≠ .text "")
    (encoding : RowKeyEncoding) : key.encodeRowKey encoding = [] ↔ key = .bytes [] := by
  have converted : Utf8.encode key.display ≠ [] := Utf8.encode_ne_nil (display_ne_nil filled)
  have unescaped := Bytes.unescape_ne_nil converted
  cases key with
  | bytes b => simp [encodeRowKey]
  | _ => cases encoding <;> simpa [encodeRowKey]

namespace Record

/-- The row key of published data: what a record has in the field that the layout names, if that is
neither null nor the empty text. -/
structure Keyed (layout : Layout) (data key : Value) : Prop where
  field : ∃ entries, data = .dict entries ∧ layout.rowKeyField.lookupIn entries = .ok key
  notNull : key ≠ .null
  notEmpty : key ≠ .text ""

theorem Layout.rowKey?_eq_some {layout : Layout} {r : Record} {key : Value}
    (found : layout.rowKey? r = .ok (some key)) : Keyed layout (.dict r) key := by
  obtain ⟨value, looked, keyed⟩ := Layout.exists_of_rowKey? found
  obtain ⟨rfl, notNull, notEmpty⟩ := (keyed key).mp rfl
  exact ⟨⟨r, rfl, looked⟩, notNull, notEmpty⟩

/-- Only what has a row key makes a request, for the row of that key. -/
theorem keyed_of_requestOf {layout : Layout} {table : Option String} {data : Value}
    {request : PutRequest} (made : requestOf layout table data = .ok (some request)) :
    ∃ key, Keyed layout data key ∧
      request.row = some (key.encodeRowKey layout.rowKeyEncoding) := by
  cases data with
  | dict entries =>
    obtain ⟨key?, found, made⟩ := bind_eq_ok_iff.mp made
    cases key? with
    | none => cases made
    | some key =>
      obtain ⟨given, -, made⟩ := bind_eq_ok_iff.mp made
      obtain ⟨cells, -, made⟩ := bind_eq_ok_iff.mp made
      obtain ⟨row, written, made⟩ := bind_eq_ok_iff.mp made
      obtain ⟨timestamp, -, made⟩ := bind_eq_ok_iff.mp made
      cases made
      obtain ⟨-, rfl⟩ := Value.toRowKey_eq_ok_iff.mp (mapError_eq_ok_iff.mp written)
      exact ⟨key, Layout.rowKey?_eq_some (mapError_eq_ok_iff.mp found), rfl⟩
  | _ => cases made

end Record
end WideColumn
