import WideColumn.Proofs.Filter.Division
import WideColumn.Proofs.Filter.Joining
import WideColumn.Proofs.Text.Trim

/-! Blanks between tokens. A text has the same tokens when blanks are put in where no token stands,
since a blank goes on with none of them; they are moved at most, and so is a complaint of the
parser. -/
namespace WideColumn.Filter

open Text (isBlank)

/-- Positions from `start` on moved by `d`. -/
def shift (start d p : Nat) : Nat := if p < start then p else d + p

theorem shift_of_lt {start d p : Nat} (before : p < start) : shift start d p = p := if_pos before

theorem shift_of_le {start d p : Nat} (behind : start ≤ p) : shift start d p = d + p :=
  if_neg (Nat.not_lt.mpr behind)

/-- No token covers the place in front of a position and the one behind it. -/
def Parts (position : Nat) (ts : List Token) : Prop :=
  ∀ t ∈ ts, ¬ (t.position < position ∧ position < t.stop)

theorem Prefix.blanks {w : List Char} (space : Text.isBlankText w = true) (p : Nat)
    (rest : List Char) : Prefix p (w ++ rest) [] (p + w.length) rest := by
  induction w generalizing p with
  | nil => exact .done
  | cons c w ih =>
    obtain ⟨first, others⟩ := Text.isBlankText_cons.mp space
    have more := ih others (p + 1)
    rw [Nat.add_assoc, Nat.add_comm 1] at more
    exact .blank first more

theorem separates_blanks {w : List Char} (space : Text.isBlankText w = true) (rest : List Char) :
    Separates rest (w ++ rest) := by
  cases w with
  | nil => exact .of_head rfl
  | cons c w =>
    obtain ⟨first, -⟩ := Text.isBlankText_cons.mp space
    exact separates_blank first rest (w ++ rest)

/-- Where no token stands, the tokens of a text are those in front and those behind. -/
theorem Prefix.split {p q : Nat} {u v rest : List Char} {ts : List Token}
    (h : Prefix p (u ++ v) ts q rest) (inside : rest.length ≤ v.length)
    (between : Parts (p + u.length) ts) :
    ∃ front back, ts = front ++ back ∧ Prefix p (u ++ v) front (p + u.length) v ∧
      Prefix (p + u.length) v back q rest := by
  generalize whole : u ++ v = cs at h
  induction h generalizing u with
  | done =>
    have count := congrArg List.length whole
    rw [List.length_append] at count
    obtain rfl := List.length_eq_zero_iff.mp (by omega : u.length = 0)
    obtain rfl : v = _ := whole
    exact ⟨[], [], rfl, .done, .done⟩
  | @blank p q c cs rest ts space more ih =>
    cases u with
    | nil =>
      obtain rfl : v = _ := whole
      exact ⟨[], ts, rfl, .done, .blank space more⟩
    | cons d u =>
      obtain ⟨rfl, rest⟩ := List.cons.inj whole
      have count : p + (d :: u).length = p + 1 + u.length := by
        rw [List.length_cons]
        omega
      rw [count] at between ⊢
      obtain ⟨front, back, rfl, first, last⟩ := ih inside between rest
      exact ⟨front, back, rfl, .blank space first, last⟩
  | @token p q c body cs rest kind ts visible read more ih =>
    cases u with
    | nil =>
      obtain rfl : v = _ := whole
      exact ⟨[], _, rfl, .done, .token visible read more⟩
    | cons d u =>
      obtain ⟨here, others⟩ := List.forall_mem_cons.mp between
      simp only [Token.stop, List.length_cons] at here
      obtain ⟨rfl, tail⟩ := List.cons.inj whole
      have tail : u ++ v = body ++ cs := tail
      -- The token ends in front of the place, so it is all in the first text.
      have starts : body <+: u := by
        refine List.prefix_of_prefix_length_le ⟨cs, tail.symm⟩ (List.prefix_append u v) ?_
        omega
      obtain ⟨u, rfl⟩ := starts
      have count : p + (d :: (body ++ u)).length = p + 1 + body.length + u.length := by
        simp only [List.length_cons, List.length_append]
        omega
      rw [count] at others ⊢
      rw [List.append_assoc] at tail
      have cut : u ++ v = cs := List.append_cancel_left tail
      obtain ⟨front, back, rfl, first, last⟩ := ih inside others cut
      subst cut
      exact ⟨_ :: front, back, rfl, .token visible read first, last⟩

/-- Blanks between tokens change none of them, and move those behind. -/
theorem scan_spaced {u v w : List Char} {ts : List Token} (scanned : scan (u ++ v) = .ok ts)
    (between : Parts u.length ts) (space : Text.isBlankText w = true) :
    scan (u ++ w ++ v) = .ok (ts.map (Token.relocate (shift u.length w.length))) := by
  have whole := scan_iff.mp scanned
  obtain ⟨front, back, rfl, first, last⟩ := whole.split (Nat.zero_le _) (by rwa [Nat.zero_add])
  rw [Nat.zero_add] at first last
  obtain ⟨u', same, again⟩ := first.front
  obtain rfl : u = u' := List.append_cancel_right same
  have read := ((again _ (separates_blanks space v)).append (.blanks space u.length v)).scanned
  have behind : scanAfter 0 u.length v = .ok back := by
    simpa [scanAfter, Except.map] using last.scanned
  have moved := scanAfter_relocated w.length 0 u.length v
  rw [behind, Nat.add_comm, relocated_ok] at moved
  rw [List.append_nil, moved] at read
  rw [scan, List.append_assoc, read, List.map_append]
  have stay : front.map (Token.relocate (shift u.length w.length)) = front := by
    refine (List.map_congr_left fun t member => ?_).trans (List.map_id front)
    rw [Token.relocate, shift_of_lt (first.mem_position t member).2]
    rfl
  have move : back.map (Token.relocate (shift u.length w.length)) =
      back.map (Token.relocate (w.length + ·)) := by
    refine List.map_congr_left fun t member => ?_
    rw [Token.relocate, shift_of_le (last.mem_position t member).1]
    rfl
  rw [stay, move]
  rfl

theorem isBlankText_spaced {w : List Char} (space : Text.isBlankText w = true) (u v : List Char) :
    Text.isBlankText (u ++ w ++ v) = Text.isBlankText (u ++ v) := by
  unfold Text.isBlankText at space ⊢
  simp only [List.all_append, space, Bool.and_true]

theorem shift_length {w : List Char} (u v : List Char) :
    shift u.length w.length (u ++ v).length = (u ++ w ++ v).length := by
  simp only [List.length_append]
  rw [shift_of_le (Nat.le_add_right _ _)]
  omega

/-- The parser does with the spaced text what it does with the other one. -/
theorem parse_spaced {u v w : List Char} {ts : List Token} (scanned : scan (u ++ v) = .ok ts)
    (between : Parts u.length ts) (space : Text.isBlankText w = true) (table : Table) :
    parse table (u ++ w ++ v) =
      relocated (shift u.length w.length) id (parse table (u ++ v)) := by
  unfold parse
  rw [isBlankText_spaced space, scan_spaced scanned between space, scanned]
  split
  · rfl
  · have moved : parseTokens table (u ++ w ++ v).length
        (ts.map (Token.relocate (shift u.length w.length))) =
          relocated (shift u.length w.length) id (parseTokens table (u ++ v).length ts) := by
      rw [← shift_length]
      exact parseTokens_relocated table (u ++ v).length (scan_iff.mp scanned).startsAlone
    exact map_relocated moved fun _ => rfl

/-- Blanks that are put between the tokens of a text leave all tokens as they are, one by one. Over
every table the text then has the same tree, or is rejected with the same message. -/
theorem spaced_alike {u v w : List Char} {ts : List Token} (tokens : tokenize (u ++ v) = .ok ts)
    (between : Parts u.length ts) (space : Text.isBlankText w = true) :
    (∃ us, tokenize (u ++ w ++ v) = .ok us ∧
      us.map (fun t => (t.kind, t.text)) = ts.map fun t => (t.kind, t.text)) ∧
    ∀ table,
      (∀ tree, parse table (u ++ w ++ v) = .ok tree ↔ parse table (u ++ v) = .ok tree) ∧
      (∀ message, (∃ r, parse table (u ++ w ++ v) = .error (.rejected r) ∧ r.message = message) ↔
        ∃ r, parse table (u ++ v) = .error (.rejected r) ∧ r.message = message) ∧
      (parse table (u ++ w ++ v) = .error .namelessKind ↔
        parse table (u ++ v) = .error .namelessKind) := by
  obtain ⟨before, scanned, rfl⟩ := map_eq_ok_iff.mp tokens
  have between : Parts u.length before := fun t member =>
    between t (List.mem_append_left _ member)
  refine ⟨⟨_, by rw [tokenize, scan_spaced scanned between space]; rfl, ?_⟩, fun table => ?_⟩
  · rw [List.map_append, List.map_append, List.map_map]
    rfl
  · rw [parse_spaced scanned between space table]
    cases parse table (u ++ v) with
    | ok tree => simp
    | error e =>
      cases e with
      | rejected r =>
        simp [relocated, Failure.relocate, Rejection.message, Rejection.relocate_reason]
      | number e => simp [relocated, Failure.relocate]
      | namelessKind => simp [relocated, Failure.relocate]

/-- Blanks in front of a comma, and in front of an argument that the parser complains about. -/
theorem spaced_alike_arguments :
    (∃ tree, parse Table.default ("RowFilter(>=".toList ++ ",'binary:a')".toList) =
        .ok (some tree) ∧
      parse Table.default ("RowFilter(>=".toList ++ ['\t', '\u3000'] ++ ",'binary:a')".toList) =
        .ok (some tree)) ∧
    ∃ r, parse Table.default ("PageFilter(".toList ++ ['\n'] ++ "'a')".toList) =
        .error (.rejected r) ∧
      r.message = "Expected int argument but found ''a''" := by
  constructor
  · have tokens : (tokenize ("RowFilter(>=".toList ++ ",'binary:a')".toList)).toOption =
        some [⟨.name, "RowFilter".toList, 0⟩, ⟨.leftParen, ['('], 9⟩,
          ⟨.op .greaterOrEqual, ['>', '='], 10⟩, ⟨.comma, [','], 12⟩,
          ⟨.string "binary:a".toList, "'binary:a'".toList, 13⟩, ⟨.rightParen, [')'], 23⟩,
          Token.finish 24] := by decide +kernel
    have alike := spaced_alike (w := ['\t', '\u3000']) (toOption_eq_some tokens)
      (by unfold Parts; decide +kernel) (by decide +kernel)
    have isTree : (parse Table.default
        ("RowFilter(>=".toList ++ ",'binary:a')".toList)).toOption.join.isSome = true := by
      decide +kernel
    obtain ⟨tree, found⟩ := Option.isSome_iff_exists.mp isTree
    have parsed := toOption_eq_some (Option.join_eq_some_iff.mp found)
    exact ⟨tree, parsed, ((alike.2 Table.default).1 (some tree)).mpr parsed⟩
  · have tokens : (tokenize ("PageFilter(".toList ++ "'a')".toList)).toOption =
        some [⟨.name, "PageFilter".toList, 0⟩, ⟨.leftParen, ['('], 10⟩,
          ⟨.string ['a'], "'a'".toList, 11⟩, ⟨.rightParen, [')'], 14⟩, Token.finish 15] := by
      decide +kernel
    have alike := spaced_alike (w := ['\n']) (toOption_eq_some tokens)
      (by unfold Parts; decide +kernel) (by decide +kernel)
    have rejected : rejection? (parse Table.default ("PageFilter(".toList ++ "'a')".toList)) =
        some ⟨.wrongKind "int" "'a'".toList, 11⟩ := by decide +kernel
    refine ((alike.2 Table.default).2.1 _).mpr ⟨_, eq_of_rejection? rejected, ?_⟩
    decide +kernel

end WideColumn.Filter
