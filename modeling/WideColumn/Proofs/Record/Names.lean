import WideColumn.Proofs.Bytes.Utf8
import WideColumn.Proofs.Text.Trim
import WideColumn.Read.Cell
import WideColumn.Record.Basic

/-! Names of columns. A name with a colon is taken apart at the first one, as a text by a record and
as a byte string by a cell, and both give the parts that were joined. -/
namespace WideColumn

namespace Utf8

/-- A byte string that spells a text. -/
def IsText (b : Bytes) : Prop := ∃ s, ofString s = b

theorem toStringLossy_ofString (s : String) : toStringLossy (ofString s) = s := by
  rw [toStringLossy, ofString, decodeLossy_encode, String.ofList_toList]

theorem IsText.ofString_toStringLossy {b : Bytes} (h : IsText b) :
    ofString (toStringLossy b) = b := by
  obtain ⟨s, rfl⟩ := h
  rw [toStringLossy_ofString]

theorem ofString_append (s t : String) : ofString (s ++ t) = ofString s ++ ofString t := by
  rw [ofString, String.toList_append, encode_append]
  rfl

/-- An ASCII byte stands in the spelling of a text only where its character does. -/
theorem mem_of_mem_encode {cs : List Char} {c : Char} {b : UInt8} (same : c.toNat = b.toNat)
    (ascii : b.toNat < 0x80) (member : b ∈ encode cs) : c ∈ cs := by
  obtain ⟨d, isChar, isByte⟩ := List.mem_flatMap.mp member
  have equal : d.toNat = c.toNat := (toNat_of_mem_encodeChar isByte ascii).trans same.symm
  rwa [← Char.ofNat_toNat c, ← equal, Char.ofNat_toNat]

end Utf8

theorem Bytes.splitAt?_append {sep : UInt8} {before : Bytes} (after : Bytes) (h : sep ∉ before) :
    splitAt? sep (before ++ sep :: after) = some (before, after) := by
  induction before with
  | nil => simp [splitAt?]
  | cons b rest ih =>
    obtain ⟨other, absent⟩ := not_or.mp (List.mem_cons.not.mp h)
    simp [splitAt?, Ne.symm other, ih absent]

namespace Record

/-- The name that a column has in a record. -/
def joined (family qualifier : String) : String := family ++ ":" ++ qualifier

theorem toList_joined (family qualifier : String) :
    (joined family qualifier).toList = family.toList ++ ':' :: qualifier.toList := by
  simp [joined, String.toList_append]

theorem colon_mem_joined (family qualifier : String) : ':' ∈ (joined family qualifier).toList := by
  simp [toList_joined]

/-- Text and bytes are joined alike. -/
theorem ofString_joined (family qualifier : String) :
    Utf8.ofString (joined family qualifier) =
      Column.join (Utf8.ofString family) (Utf8.ofString qualifier) := by
  rw [joined, Utf8.ofString_append, Utf8.ofString_append, List.append_assoc]
  rfl

theorem takeWhile_family {family : List Char} (rest : List Char) (plain : ':' ∉ family) :
    (family ++ ':' :: rest).takeWhile (· ≠ ':') = family := by
  apply Text.takeWhile_stop
  · intro c member
    exact decide_eq_true fun same => plain (same ▸ member)
  · rfl

theorem splitName?_joined {family : String} (qualifier : String) (plain : ':' ∉ family.toList) :
    splitName? (joined family qualifier) = some (family, qualifier) := by
  simp only [splitName?, toList_joined, takeWhile_family _ plain, List.drop_left,
    String.ofList_toList]

theorem splitName?_eq_none {name : String} (plain : ':' ∉ name.toList) :
    splitName? name = none := by
  have whole : name.toList.takeWhile (· ≠ ':') = name.toList := by
    rw [List.takeWhile_eq_self_iff]
    intro c member
    simpa using fun same : c = ':' => plain (same ▸ member)
  simp only [splitName?, whole, List.drop_length]

/-- A name with a colon is the one of a column, taken apart at its first colon. -/
theorem exists_joined {name : String} (h : ':' ∈ name.toList) :
    ∃ family qualifier, ':' ∉ family.toList ∧ name = joined family qualifier := by
  obtain ⟨family, qualifier, split, plain⟩ := List.eq_append_cons_of_mem h
  refine ⟨.ofList family, .ofList qualifier, ?_, ?_⟩
  · rwa [String.toList_ofList]
  · rw [← String.toList_inj, toList_joined, String.toList_ofList, String.toList_ofList, split]

/-- What a column's name begins with is decided by its family. -/
theorem isMetadata_joined (family qualifier : String) :
    isMetadata (joined family qualifier) = isMetadata family := by
  simp only [isMetadata, toList_joined]
  match family.toList with
  | [] => simp [List.isPrefixOf]
  | [c] => simp [List.isPrefixOf]
  | _ :: _ :: _ => simp [List.isPrefixOf]

end Record

theorem Slice.bytes_nat (b : Bytes) (offset length : Nat) :
    (Slice.mk b offset length).bytes = (b.take (offset + length)).drop offset := by
  have place (n : Nat) : place b.length n = min b.length n := by
    have notNegative : ¬ (n : Int) < 0 := by omega
    simp [Slice.place, notNegative]
  have sum : (offset : Int) + length = (offset + length : Nat) := by omega
  simp only [Slice.bytes, sum, place]
  grind

/-- The cell of a column has the parts that its name was joined from. -/
theorem Cell.ofColumn_join {family : Bytes} (row qualifier value : Bytes) (timestamp : Int)
    (plain : Column.colon ∉ family) :
    let c := ofColumn row (Column.join family qualifier) value timestamp
    c.family.bytes = family ∧ c.qualifier.bytes = qualifier ∧ c.value.bytes = value := by
  have split : Bytes.splitAt? Column.colon (Column.join family qualifier) =
      some (family, qualifier) := Bytes.splitAt?_append qualifier plain
  simp only [ofColumn, splitColumn, split, Slice.bytes_nat, Slice.bytes_whole, and_true]
  constructor
  · simp [Column.join]
  · have taken : family.length + 1 + qualifier.length =
        (Column.join family qualifier).length := by
      simp only [Column.join, List.length_append, List.length_cons]
      omega
    rw [taken, List.take_length, Column.join, Nat.add_comm, ← List.drop_drop]
    simp

end WideColumn
