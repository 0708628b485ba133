import WideColumn.Proofs.Read.Cells
import WideColumn.Proofs.Record.Requests
import WideColumn.Service.Write
import WideColumn.Stream.Setup

/-! Names of columns, wherever they are taken apart or put together. A text has its first colon
where its bytes have theirs, since no other character is spelled with that byte; so a subscriber, a
record, a put and a cell of a row that is read agree on what is family and what is qualifier. -/
namespace WideColumn

variable {name family qualifier : String}

theorem Column.colon_mem_ofString : colon ∈ Utf8.ofString name ↔ ':' ∈ name.toList := by
  constructor
  · exact Utf8.mem_of_mem_encode rfl (by decide)
  · intro named
    obtain ⟨family, qualifier, -, rfl⟩ := Record.exists_joined named
    rw [Record.ofString_joined, join]
    simp

/-- A text and its bytes are taken apart alike. -/
theorem Cell.bytes_ofString (split : Record.splitName? name = some (family, qualifier)) :
    (familyIn (Utf8.ofString name)).bytes = Utf8.ofString family ∧
      (qualifierIn (Utf8.ofString name)).bytes = Utf8.ofString qualifier := by
  by_cases named : ':' ∈ name.toList
  · obtain ⟨front, back, plain, rfl⟩ := Record.exists_joined named
    rw [Record.splitName?_joined back plain] at split
    cases split
    rw [Record.ofString_joined]
    exact bytes_join _ fun member => plain (Column.colon_mem_ofString.mp member)
  · rw [Record.splitName?_eq_none named] at split
    cases split

namespace Record

variable {layout : Layout} {fields : Record} {cells : List (Option CellWrite)}

theorem exists_splitName? (named : ':' ∈ name.toList) :
    ∃ family qualifier, splitName? name = some (family, qualifier) := by
  obtain ⟨family, qualifier, plain, rfl⟩ := exists_joined named
  exact ⟨family, qualifier, splitName?_joined qualifier plain⟩

theorem Layout.cell?_of_colon {value : Value} (written : layout.writes name value = true)
    (named : ':' ∈ name.toList) : layout.cell? (.text name, value) =
      ((value.encode layout.valueEncoding).mapError .encoding).map fun b =>
        some ⟨some (Cell.familyIn (Utf8.ofString name)).bytes,
          some (Cell.qualifierIn (Utf8.ofString name)).bytes, some b, none⟩ := by
  obtain ⟨family, qualifier, split⟩ := exists_splitName? named
  have column : layout.column name = (.text family, qualifier) := by
    rw [Layout.column, split]
  obtain ⟨isFamily, isQualifier⟩ := Cell.bytes_ofString split
  rw [isFamily, isQualifier]
  cases encoded : value.encode layout.valueEncoding with
  | ok b => exact Layout.cell?_of_written written column encoded
  | error e =>
    simp only [cell?, textToStart, Except.mapError, bind, Except.bind, written, encoded]
    rfl

/-- A field whose name has a colon goes to the column of that name. -/
def GoesTo (field : String × Value) (cell : CellWrite) : Prop :=
  ':' ∈ field.1.toList → cell.family = some (Cell.familyIn (Utf8.ofString field.1)).bytes ∧
    cell.qualifier = some (Cell.qualifierIn (Utf8.ofString field.1)).bytes

theorem goesTo_of_cell? {value : Value} {cell : CellWrite}
    (made : layout.cell? (.text name, value) = .ok (some cell)) : GoesTo (name, value) cell := by
  intro named
  obtain ⟨same, ⟨⟩, written⟩ := Layout.text_of_cell? made
  rw [Layout.cell?_of_colon written.symm named] at made
  obtain ⟨b, -, isCell⟩ := map_eq_ok_iff.mp made
  cases isCell
  exact ⟨rfl, rfl⟩

/-- The cells that are written, field by field. -/
theorem goesTo_of_forall₂
    (converted : List.Forall₂ (fun field cell => layout.cell? field = .ok cell) fields cells) :
    ∃ named : List (String × Value), fields = named.map (fun e => (.text e.1, e.2)) ∧
      List.Forall₂ GoesTo (named.filter fun e => layout.writes e.1 e.2) (cells.filterMap id) := by
  obtain ⟨named, rfl⟩ := named_of_forall₂ converted
  rw [List.forall₂_map_left_iff] at converted
  exact ⟨named, rfl, written_of_forall₂ (fun _ _ => goesTo_of_cell?) converted⟩

end Record

/-- Names of columns mean the same everywhere. The columns that a subscriber asks for have the names
that it is given, with family and qualifier as a cell of them has. What a put joins is taken apart
into what it was. A field whose name has a colon is written to the column of that name. -/
theorem Column.names_agree :
    (∀ text : String,
      let column := Stream.Config.column text
      let b := Utf8.ofString text
      column.name = .ok (some b) ∧ column.family = some (Cell.familyIn b).bytes ∧
        column.qualifier.getD [] = (Cell.qualifierIn b).bytes ∧
        (column.qualifier.isSome ↔ ':' ∈ text.toList)) ∧
      (∀ family qualifier value timestamp, colon ∉ family → ∃ column,
        Client.columnName ⟨some family, some qualifier, value, timestamp⟩ = .ok column ∧
          (Cell.familyIn column).bytes = family ∧ (Cell.qualifierIn column).bytes = qualifier) ∧
      (∀ (layout : Record.Layout) name value, layout.writes name value = true →
        ':' ∈ name.toList → layout.cell? (.text name, value) =
          ((value.encode layout.valueEncoding).mapError .encoding).map fun b =>
            some ⟨some (Cell.familyIn (Utf8.ofString name)).bytes,
              some (Cell.qualifierIn (Utf8.ofString name)).bytes, some b, none⟩) ∧
      ∀ layout table record request, Record.toRequest layout table record = .ok (some request) →
        ∃ fields : List (String × Value), record = fields.map (fun e => (.text e.1, e.2)) ∧
          List.Forall₂ Record.GoesTo (fields.filter fun e => layout.writes e.1 e.2)
            request.columns := by
  refine ⟨fun text => ?_, ?_, fun _ _ _ => Record.Layout.cell?_of_colon, ?_⟩
  · intro column b
    by_cases named : ':' ∈ text.toList
    · obtain ⟨family, qualifier, plain, rfl⟩ := Record.exists_joined named
      have split := Record.splitName?_joined qualifier plain
      have isColumn :
          column = ⟨some (Utf8.ofString family), some (Utf8.ofString qualifier)⟩ := by
        simp only [column, Stream.Config.column, split]
      obtain ⟨isFamily, isQualifier⟩ := Cell.bytes_ofString split
      rw [isColumn, isFamily, isQualifier]
      simp [Column.name, named, b, Record.ofString_joined]
    · have plain : colon ∉ b := fun member => named (colon_mem_ofString.mp member)
      have isColumn : column = ⟨some b, none⟩ := by
        simp only [column, Stream.Config.column, Record.splitName?_eq_none named, b]
      obtain ⟨isFamily, isQualifier⟩ := Cell.bytes_plain plain
      rw [isColumn, isFamily, isQualifier]
      simp [Column.name, named]
  · intro family qualifier value timestamp plain
    exact ⟨join family qualifier, rfl, Cell.bytes_join qualifier plain⟩
  · intro layout table record request made
    obtain ⟨-, cells, converted, columns⟩ := Record.cells_of_toRequest made
    rw [columns]
    exact Record.goesTo_of_forall₂ converted

/-- A name with two colons and a character of two bytes before them. -/
theorem Column.names_agree_two_colons :
    let bytes := Utf8.ofString
    let fields : List (String × Value) :=
      [("é:b:c", .text "1"), (Record.defaultRowKeyField, .text "k"), ("x", .text "2")]
    let record : Record := fields.map fun e => (.text e.1, e.2)
    let request : PutRequest := ⟨none, some (bytes "k"),
      [⟨some (bytes "é"), some (bytes "b:c"), some (bytes "1"), none⟩,
        ⟨some (bytes "cf"), some (bytes "x"), some (bytes "2"), none⟩], none⟩
    (Stream.Config.column "é:b:c").name = .ok (some (bytes "é:b:c")) ∧
      colon ∉ bytes "é" ∧ (∃ column,
        Client.columnName ⟨some (bytes "é"), some (bytes "b:c"), none, none⟩ = .ok column ∧
          (Cell.familyIn column).bytes = bytes "é" ∧
          (Cell.qualifierIn column).bytes = bytes "b:c") ∧
      Record.Layout.cell? {} (.text "é:b:c", .text "1") =
        .ok (some ⟨some (Cell.familyIn (bytes "é:b:c")).bytes,
          some (Cell.qualifierIn (bytes "é:b:c")).bytes, some (bytes "1"), none⟩) ∧
      Record.toRequest {} none record = .ok (some request) ∧
      ∃ named : List (String × Value), record = named.map (fun e => (.text e.1, e.2)) ∧
        List.Forall₂ Record.GoesTo
          (named.filter fun e => Record.Layout.writes {} e.1 e.2) request.columns := by
  intro bytes fields record request
  obtain ⟨subscribed, put, field, written⟩ := Column.names_agree
  have plain : colon ∉ bytes "é" := by decide +kernel
  have made : Record.toRequest {} none record = .ok (some request) := by decide +kernel
  have colon : ':' ∈ "é:b:c".toList := by decide +kernel
  exact ⟨(subscribed "é:b:c").1, plain, put _ _ none none plain,
    field {} "é:b:c" (.text "1") (by decide +kernel) colon, made,
    written {} none record request made⟩

end WideColumn
