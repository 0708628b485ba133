import WideColumn.Proofs.Filter.Completeness
import WideColumn.Proofs.Filter.Printing
import WideColumn.Proofs.Service.Scanner

/-! A parsed filter, written and parsed again, is the same filter. Its written bytes, which a scan
of the gateway carries, are the encoded text, because every byte string in it is one. -/
namespace WideColumn.Filter

variable {table : Table}

theorem parse_eq_some {cs : List Char} {n : Node} (parsed : parse table cs = .ok (some n)) :
    ∃ ts, scan cs = .ok ts ∧ Grammar.Expression table ts n := by
  cases scanned : scan cs with
  | ok ts => exact ⟨ts, rfl, (Grammar.parse_eq_some_iff scanned).mp parsed⟩
  | error e =>
    unfold parse at parsed
    rw [scanned] at parsed
    split at parsed <;> cases parsed

theorem printable_of_parse {cs : List Char} {n : Node} (parsed : parse table cs = .ok (some n)) :
    Printable table n := by
  obtain ⟨ts, scanned, derived⟩ := parse_eq_some parsed
  exact derived.printable (scan_iff.mp scanned).shape

theorem Printable.parse_text {n : Node} (h : Printable table n) :
    parse table n.text = .ok (some n) := by
  obtain ⟨ts, q, derived, read⟩ := h.spells.2 0 []
  rw [List.append_nil] at read
  exact (Grammar.parse_eq_some_iff read.scan_eq).mpr derived

theorem quote_not_mem {c : Char} (other : c ≠ '\'') : 0x27 ∉ String.utf8EncodeChar c := by
  intro member
  have same := Utf8.toNat_of_mem_encodeChar member (by decide)
  exact other (Char.toNat_inj.mp same)

/-- Only a quote has the byte of a quote, so doubling the bytes doubles the characters. -/
theorem quoteBytes_encode (cs : List Char) :
    Piece.quoteBytes (Utf8.encode cs) = Utf8.encode (Piece.quoteText cs) := by
  have inside : (Utf8.encode cs).flatMap (fun x => if x = 0x27 then [0x27, 0x27] else [x]) =
      Utf8.encode (cs.flatMap fun c => if c = '\'' then ['\'', '\''] else [c]) := by
    simp only [Utf8.encode, List.flatMap_assoc]
    refine List.flatMap_congr fun c _ => ?_
    by_cases quote : c = '\''
    · rw [quote]
      decide
    · have alone : ∀ x ∈ String.utf8EncodeChar c,
          (if x = 0x27 then [0x27, 0x27] else [x]) = [x] := by
        intro x member
        refine if_neg ?_
        rintro rfl
        exact quote_not_mem quote member
      rw [List.flatMap_congr alone, if_neg quote]
      simp
  have quote : Utf8.encode ['\''] = [0x27] := by decide
  rw [Piece.quoteBytes, Piece.quoteText, inside, Utf8.encode_append, quote]
  exact congrArg (· ++ [0x27]) (Utf8.encode_append ['\''] _).symm

/-- A part of a written filter whose byte string, if it is one, is an encoded text. -/
def Piece.Encoded (piece : Piece) : Prop := ∀ b, piece = .quoted b → ∃ cs, b = Utf8.encode cs

theorem Piece.Encoded.wire {piece : Piece} (h : piece.Encoded) :
    piece.wire = Utf8.encode piece.text := by
  cases piece with
  | plain cs => rfl
  | quoted b =>
    obtain ⟨cs, rfl⟩ := h b rfl
    rw [Piece.wire, Piece.text, Utf8.decodeLossy_encode, quoteBytes_encode]

theorem Piece.encoded_plain (cs : List Char) : (Piece.plain cs).Encoded := by
  intro b same
  cases same

theorem Arg.Writable.encoded {arg : Arg} (writable : arg.Writable) : arg.piece.Encoded := by
  cases writable with
  | @text value =>
    rintro _ ⟨⟩
    exact ⟨value, rfl⟩
  | @comparator kind value =>
    rintro _ ⟨⟩
    exact ⟨kind.name ++ [':'] ++ value, (Utf8.encode_append _ _).symm⟩
  | number | flag | op => exact Piece.encoded_plain _

theorem mem_intersperse {α : Type} {separator a : α} {as : List α}
    (member : a ∈ as.intersperse separator) : a = separator ∨ a ∈ as := by
  induction as with
  | nil => cases member
  | cons first more ih =>
    cases more with
    | nil => exact .inr member
    | cons second more =>
      simp only [List.intersperse_cons_cons, List.mem_cons] at member ih ⊢
      rcases member with rfl | rfl | later
      · exact .inr (.inl rfl)
      · exact .inl rfl
      · exact (ih later).imp id .inr

theorem encoded_parenthesize {n : Node} {pieces : List Piece}
    (h : ∀ piece ∈ pieces, piece.Encoded) :
    ∀ piece ∈ n.parenthesize pieces, piece.Encoded := by
  unfold Node.parenthesize
  split
  · simp only [List.cons_append, List.forall_mem_cons, List.forall_mem_append]
    exact ⟨Piece.encoded_plain _, h, Piece.encoded_plain _, List.forall_mem_nil _⟩
  · exact h

theorem Printable.encoded {n : Node} (h : Printable table n) :
    ∀ piece ∈ n.pieces, piece.Encoded := by
  induction h with
  | leaf word free known bound writable =>
    intro piece member
    simp only [Node.pieces, List.cons_append, List.mem_cons, List.mem_append, List.not_mem_nil,
      or_false] at member
    rcases member with rfl | inside | rfl
    · exact Piece.encoded_plain _
    · rcases mem_intersperse inside with rfl | written
      · exact Piece.encoded_plain _
      · obtain ⟨arg, member, rfl⟩ := List.mem_map.mp written
        exact (writable arg member).encoded
    · exact Piece.encoded_plain _
  | list connective children ih =>
    intro piece member
    rw [Node.pieces, childPieces_eq] at member
    obtain ⟨part, inside, member⟩ := List.mem_flatten.mp member
    rcases mem_intersperse inside with rfl | operand
    · rw [List.mem_singleton.mp member]
      exact Piece.encoded_plain _
    · obtain ⟨child, isChild, rfl⟩ := List.mem_map.mp operand
      exact encoded_parenthesize (ih child isChild) piece member
  | wrap operator inside ih =>
    rw [Node.pieces]
    exact List.forall_mem_cons.mpr ⟨Piece.encoded_plain _, encoded_parenthesize ih⟩

theorem Printable.wire {n : Node} (h : Printable table n) : n.wire = Utf8.encode n.text := by
  have each : ∀ piece ∈ n.pieces, piece.wire = Utf8.encode piece.text :=
    fun piece member => (h.encoded piece member).wire
  rw [Node.wire, Node.text, Utf8.encode, List.flatMap_assoc]
  exact List.flatMap_congr each

/-- What the parser accepts over a table is what a scan of the gateway carries, encoded; and the
same tree when it is parsed again. -/
theorem parse_round_trip {cs : List Char} {filter : Option Node}
    (accepted : parse table cs = .ok filter) :
    (∀ {connection : Connection} {request : ScanRequest} {c c' : Client}
        {outcome : Except Fault Scanner}, connection.backend = .gateway →
        Client.openScanner connection { request with filter } c = (outcome, c') →
        (c'.store.log = c.store.log ∧ ∀ s, outcome ≠ .ok s) ∨
          ∃ scan, scan.filter = filter.map (fun n => Utf8.encode n.text) ∧
            c'.store.log = c.store.log ++ [.gatewayScanned scan]) ∧
      ∀ n, filter = some n →
        (∀ b, Piece.quoted b ∈ n.pieces → Utf8.decode? b ≠ none) ∧
          Utf8.decode? n.wire = some n.text ∧ parse table n.text = .ok (some n) := by
  have printable : ∀ n, filter = some n → Printable table n := by
    rintro n rfl
    exact printable_of_parse accepted
  constructor
  · intro connection request c c' outcome gateway opened
    refine (Client.openScanner_gateway gateway opened).imp id ?_
    rintro ⟨scan, carried, logged⟩
    refine ⟨scan, carried.trans ?_, logged⟩
    exact Option.map_congr fun n some => (printable n some).wire
  · intro n some
    refine ⟨fun b quoted => ?_, ?_, (printable n some).parse_text⟩
    · obtain ⟨text, rfl⟩ := (printable n some).encoded _ quoted b rfl
      simp [Utf8.decode?_encode]
    · rw [(printable n some).wire, Utf8.decode?_encode]

/-- The type of a comparator comes back in lower case, and a quote inside it written twice. -/
theorem parse_round_trip_comparator :
    let n := Node.leaf "RowFilter" [.op .equal, .comparator ⟨.binary, Utf8.encode "it's".toList⟩]
    let service : Service := { name := "s", settings := ∅, backend := .gateway }
    let c : Client := { service, store := {}, metrics := {} }
    parse Table.default "RowFilter(=,'Binary:it''s')".toList = .ok (some n) ∧
      (∃ scan, scan.filter = some (Utf8.encode "RowFilter (=, 'binary:it''s')".toList) ∧
        (Client.openScanner ⟨1, .gateway⟩ { table := "t", filter := some n } c).2.store.log =
          [.gatewayScanned scan]) ∧
      Utf8.decode? n.wire = some "RowFilter (=, 'binary:it''s')".toList ∧
      parse Table.default "RowFilter (=, 'binary:it''s')".toList = .ok (some n) := by
  intro n service c
  have scanned : (scan "RowFilter(=,'Binary:it''s')".toList).toOption = some
      [⟨.name, "RowFilter".toList, 0⟩, ⟨.leftParen, ['('], 9⟩, ⟨.op .equal, ['='], 10⟩,
        ⟨.comma, [','], 11⟩, ⟨.string "Binary:it's".toList, "'Binary:it''s'".toList, 12⟩,
        ⟨.rightParen, [')'], 26⟩] := by decide +kernel
  have spelled : SpellsComparator (some (.op .equal)) "Binary:it's".toList
      ⟨.binary, Utf8.encode "it's".toList⟩ :=
    comparator_eq_ok_iff.mp (toOption_eq_some (by decide +kernel : (comparator 0 _ _).toOption = _))
  have bound : FirstMatch [⟨[.op, .comparator], none⟩]
      [⟨.op .equal, ['='], 10⟩, ⟨.string "Binary:it's".toList, "'Binary:it''s'".toList, 12⟩]
      [.op .equal, .comparator ⟨.binary, Utf8.encode "it's".toList⟩] :=
    .here ⟨_, .exact rfl, .cons (.op rfl) (.cons (.comparator rfl spelled) .nil)⟩
  have accepted : parse Table.default "RowFilter(=,'Binary:it''s')".toList = .ok (some n) :=
    (Grammar.parse_eq_some_iff (toOption_eq_some scanned)).mpr (.single (.single (.call
      (.intro rfl (by decide) rfl rfl (.some (.op rfl) (.cons rfl (.string rfl) .nil)) rfl bound))))
  have text : n.text = "RowFilter (=, 'binary:it''s')".toList := by decide +kernel
  obtain ⟨carried, back⟩ := parse_round_trip accepted
  obtain ⟨-, written, again⟩ := back n rfl
  refine ⟨accepted, ?_, text ▸ written, text ▸ again⟩
  rcases opened : Client.openScanner ⟨1, .gateway⟩ { table := "t", filter := some n } c with
    ⟨outcome, c'⟩
  rcases @carried ⟨1, .gateway⟩ { table := "t" } c c' outcome rfl opened with
    ⟨-, failed⟩ | ⟨scan, filter, logged⟩
  · cases opened
    exact absurd rfl (failed _)
  · exact ⟨scan, text ▸ filter, logged⟩

end WideColumn.Filter
