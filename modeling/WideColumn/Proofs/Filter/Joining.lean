import WideColumn.Proofs.Filter.Depth
import WideColumn.Proofs.Filter.Relocation
import WideColumn.Proofs.Filter.Separation

/-! A filter expression with a text joined to it by `AND`. The expression keeps its tokens, since a
blank ends them, and behind it the parser is where it would be at the start of the text: it
complains there about the same token, at a position that has moved with the text. -/
namespace WideColumn.Filter

open Grammar
open Text (isBlank)

variable {table : Table} {finish : Nat} {α β γ : Type}

/-! What is left of the tokens. Whether a text is rejected, and why, does not depend on the trees
that have been read so far. -/

def leftover (read : Except Failure (α × List Token)) : Except Failure (List Token) :=
  read.map Prod.snd

theorem leftover_sequence {read : Except Failure (α × List Token)}
    {next : List Token → Except Failure (β × List Token)} (f : α → β → γ) :
    leftover (do
      let (a, ts) ← read
      let (b, ts) ← next ts
      return (f a b, ts)) = leftover read >>= fun ts => leftover (next ts) := by
  cases read with
  | error e => rfl
  | ok result =>
    obtain ⟨a, ts⟩ := result
    simp only [leftover, bind, Except.bind, Except.map]
    cases next ts <;> rfl

theorem leftover_disjunction (depth : Nat) (ts : List Token) :
    leftover (disjunction table finish (depth + 1) ts) =
      leftover (conjunction table finish depth ts) >>= fun ts =>
        leftover (moreDisjuncts table finish depth ts) :=
  leftover_sequence (combine "OR")

theorem leftover_conjunction (depth : Nat) (ts : List Token) :
    leftover (conjunction table finish (depth + 1) ts) =
      leftover (unary table finish depth ts) >>= fun ts =>
        leftover (moreConjuncts table finish depth ts) :=
  leftover_sequence (combine "AND")

theorem leftover_moreDisjuncts {word : Token} (connective : word.isWord "OR" = true) (depth : Nat)
    (ts : List Token) :
    leftover (moreDisjuncts table finish (depth + 1) (word :: ts)) =
      leftover (conjunction table finish depth ts) >>= fun ts =>
        leftover (moreDisjuncts table finish depth ts) := by
  simp only [moreDisjuncts, startsWith, connective, if_true]
  exact leftover_sequence List.cons

theorem leftover_moreConjuncts {word : Token} (connective : word.isWord "AND" = true) (depth : Nat)
    (ts : List Token) :
    leftover (moreConjuncts table finish (depth + 1) (word :: ts)) =
      leftover (unary table finish depth ts) >>= fun ts =>
        leftover (moreConjuncts table finish depth ts) := by
  simp only [moreConjuncts, startsWith, connective, if_true]
  exact leftover_sequence List.cons

theorem isWord_other {word word' : String} {t : Token} (same : t.isWord word = true)
    (other : word ≠ word') : t.isWord word' = false := by
  refine Bool.eq_false_iff.mpr fun same' => other ?_
  exact (isWord_iff.mp same).2.symm.trans (isWord_iff.mp same').2

/-- An operand of a disjunction ends where the next one starts. -/
theorem Grammar.Disjuncts.noAnd {ts : List Token} {ns : List Node} (h : Disjuncts table ts ns)
    (several : ns ≠ []) (rest : List Token) : Filter.startsWith "AND" (ts ++ rest) = false := by
  cases h with
  | nil => exact absurd rfl several
  | @cons word _ _ _ _ isOr =>
    have other : word.isWord "AND" = false := isWord_other isOr (by decide)
    exact other

section
variable {joint : Token} (connective : joint.isWord "AND" = true) (qs : List Token)
include connective

/-- Behind operands of a conjunction and one more `AND`, the parser is at the start of one. -/
theorem Grammar.Conjuncts.joined {ts : List Token} {ns : List Node} :
    Conjuncts table ts ns → ∀ depth, 4 * (ts.length + qs.length) + 2 ≤ depth →
      leftover (moreConjuncts table finish depth (ts ++ joint :: qs)) =
        leftover (conjunction table finish depth qs)
  | .nil, depth, deep => by
    obtain ⟨depth, rfl⟩ := Nat.exists_eq_add_of_le' (Nat.one_le_of_lt deep)
    rw [List.nil_append, leftover_moreConjuncts connective, leftover_conjunction]
  | @Conjuncts.cons _ word ts rest n ns isAnd head tail, depth, deep => by
    simp only [List.length_append, List.length_cons] at deep
    obtain ⟨depth, rfl⟩ := Nat.exists_eq_add_of_le' (Nat.one_le_of_lt deep)
    have read : unary table finish depth (ts ++ (rest ++ joint :: qs)) =
        .ok (n, rest ++ joint :: qs) := head.complete depth _ (by omega)
    calc leftover (moreConjuncts table finish (depth + 1) (word :: ts ++ rest ++ joint :: qs))
      _ = leftover (moreConjuncts table finish depth (rest ++ joint :: qs)) := by
        rw [List.append_assoc, List.cons_append, leftover_moreConjuncts isAnd, read]
        rfl
      _ = leftover (conjunction table finish depth qs) := tail.joined depth (by omega)
      _ = leftover (conjunction table finish (depth + 1) qs) := by
        rw [conjunction_deeper depth qs (by omega)]

theorem Grammar.Conjunction.joined {ts : List Token} {n : Node} (h : Conjunction table ts n)
    (depth : Nat) (deep : 4 * (ts.length + qs.length) + 3 ≤ depth) :
    leftover (conjunction table finish depth (ts ++ joint :: qs)) =
      leftover (conjunction table finish depth qs) := by
  obtain ⟨depth, rfl⟩ := Nat.exists_eq_add_of_le' (Nat.one_le_of_lt deep)
  have first : ∃ ts' rest m ms, ts = ts' ++ rest ∧ Unary table ts' m ∧ Conjuncts table rest ms := by
    cases h with
    | single only => exact ⟨ts, [], n, [], by simp, only, .nil⟩
    | chain first more several => exact ⟨_, _, _, _, rfl, first, more⟩
  obtain ⟨ts, rest, m, ms, rfl, first, more⟩ := first
  rw [List.length_append] at deep
  have read : unary table finish depth (ts ++ (rest ++ joint :: qs)) =
      .ok (m, rest ++ joint :: qs) := first.complete depth _ (by omega)
  calc leftover (conjunction table finish (depth + 1) (ts ++ rest ++ joint :: qs))
    _ = leftover (moreConjuncts table finish depth (rest ++ joint :: qs)) := by
      rw [List.append_assoc, leftover_conjunction, read]
      rfl
    _ = leftover (conjunction table finish depth qs) := more.joined connective qs depth (by omega)
    _ = leftover (conjunction table finish (depth + 1) qs) := by
      rw [conjunction_deeper depth qs (by omega)]

/-- Behind operands of a disjunction and an `AND`, the parser is at the start of the last one, and
goes on with further ones. -/
theorem Grammar.Disjuncts.joined {ts : List Token} {ns : List Node} :
    Disjuncts table ts ns → ns ≠ [] → ∀ depth, 4 * (ts.length + qs.length) + 4 ≤ depth →
      leftover (moreDisjuncts table finish depth (ts ++ joint :: qs)) =
        leftover (disjunction table finish depth qs)
  | .nil, several, _, _ => absurd rfl several
  | @Disjuncts.cons _ word ts rest n ns isOr head tail, _, depth, deep => by
    simp only [List.length_append, List.length_cons] at deep
    obtain ⟨depth, rfl⟩ := Nat.exists_eq_add_of_le' (Nat.one_le_of_lt deep)
    rw [List.append_assoc, List.cons_append, leftover_moreDisjuncts isOr]
    by_cases last : ns = []
    · subst last
      cases tail
      rw [List.nil_append, head.joined connective qs depth (by omega), leftover_disjunction]
    · have read : conjunction table finish depth (ts ++ (rest ++ joint :: qs)) =
          .ok (n, rest ++ joint :: qs) := head.complete depth _ (by omega) (tail.noAnd last _)
      rw [read, disjunction_deeper depth qs (by omega)]
      exact tail.joined last depth (by omega)

/-- Behind an expression and an `AND`, the parser leaves what it would leave at the start. -/
theorem Grammar.Expression.joined {ts : List Token} {n : Node} (h : Expression table ts n)
    (depth : Nat) (deep : 4 * (ts.length + qs.length) + 5 ≤ depth) :
    leftover (disjunction table finish depth (ts ++ joint :: qs)) =
      leftover (disjunction table finish depth qs) := by
  obtain ⟨depth, rfl⟩ := Nat.exists_eq_add_of_le' (Nat.one_le_of_lt deep)
  cases h with
  | single only =>
    rw [leftover_disjunction, only.joined connective qs depth (by omega), leftover_disjunction]
  | @chain ts rest n ns first more several =>
    rw [List.length_append] at deep
    have read : conjunction table finish depth (ts ++ (rest ++ joint :: qs)) =
        .ok (n, rest ++ joint :: qs) := first.complete depth _ (by omega) (more.noAnd several _)
    rw [List.append_assoc, leftover_disjunction, read, disjunction_deeper depth qs (by omega)]
    exact more.joined connective qs several depth (by omega)

/-- An expression and an `AND` in front decide nothing about whether tokens are accepted, nor about
why they are not. -/
theorem parseTokens_joined {ps : List Token} {n : Node} (accepted : Expression table ps n) :
    (parseTokens table finish (ps ++ joint :: qs)).map (fun _ => ()) =
      (parseTokens table finish qs).map (fun _ => ()) := by
  have ends : ∀ ts, (parseTokens table finish ts).map (fun _ => ()) =
      leftover (disjunction table finish (depthFor ts.length) ts) >>= fun rest =>
        rest.head?.elim (.ok ()) fun t => reject (.unexpected (.token t.text)) t.position := by
    intro ts
    unfold parseTokens
    cases disjunction table finish (depthFor ts.length) ts with
    | error e => rfl
    | ok read =>
      obtain ⟨n, rest⟩ := read
      cases rest <;> rfl
  have deep : depthFor qs.length ≤ depthFor (ps ++ joint :: qs).length := by
    simp only [depthFor, List.length_append, List.length_cons]
    omega
  have same : leftover (disjunction table finish (depthFor (ps ++ joint :: qs).length)
      (ps ++ joint :: qs)) = leftover (disjunction table finish (depthFor qs.length) qs) := by
    rw [accepted.joined connective qs, disjunction_depthFor deep]
    simp only [depthFor, List.length_append, List.length_cons]
    omega
  rw [ends, ends, same]

end

/-! Texts that are joined. -/

def joined (p q : List Char) : List Char := p ++ ' ' :: 'A' :: 'N' :: 'D' :: ' ' :: q

/-- The connective between the texts, as a token. -/
def jointAt (position : Nat) : Token := ⟨.name, ['A', 'N', 'D'], position⟩

theorem jointAt_isWord (position : Nat) : (jointAt position).isWord "AND" = true :=
  isWord_iff.mpr ⟨rfl, rfl⟩

theorem joined_length (p q : List Char) : (joined p q).length = p.length + 5 + q.length := by
  simp only [joined, List.length_append, List.length_cons]
  omega

theorem not_isBlankText_joined (p q : List Char) : Text.isBlankText (joined p q) = false := by
  have visible : isBlank 'A' = false := by decide +kernel
  simp [Text.isBlankText, joined, visible]

/-- The tokens of a text are all there in front of an `AND`, and behind it those of the other. -/
theorem scan_joined {p : List Char} {ps : List Token} (scanned : scan p = .ok ps) (q : List Char) :
    scan (joined p q) = relocated (p.length + 5 + ·)
      (fun qs => ps ++ jointAt (p.length + 1) :: qs.map (Token.relocate (p.length + 5 + ·)))
      (scan q) := by
  have space : isBlank ' ' = true := by decide +kernel
  obtain ⟨front, same, again⟩ := (scan_iff.mp scanned).front
  obtain rfl : p = front := by simpa using same
  have word : lexeme 'A' (['N', 'D'] ++ ' ' :: q) = .ok (.name, 2) :=
    lexeme_word (.of_isAlpha (by decide)) fun c first => by
      cases first
      exact not_isNameRest_of_isBlank space
  have joint : Prefix p.length (' ' :: 'A' :: 'N' :: 'D' :: ' ' :: q)
      [jointAt (p.length + 1)] (p.length + 5) q :=
    .blank space (@Prefix.token _ _ 'A' ['N', 'D'] (' ' :: q) q .name [] (by decide +kernel) word
      (.blank space .done))
  have read := ((again _ (separates_blank space [] _)).append joint).scanned
  have moved := scanAfter_relocated (p.length + 5) 0 0 q
  rw [Nat.add_zero] at moved
  rw [scan, joined, read, moved, scan]
  cases scanAfter 0 0 q with
  | error e => rfl
  | ok qs => simp [relocated, Except.map]

def rejection? : Except Failure α → Option Rejection
  | .error (.rejected r) => some r
  | _ => none

theorem eq_of_rejection? {outcome : Except Failure α} {r : Rejection}
    (h : rejection? outcome = some r) : outcome = .error (.rejected r) := by
  unfold rejection? at h
  split at h
  · next r' => rw [Option.some.inj h]
  · cases h

/-- A text that is rejected is scanned up to a character that starts no token, or its tokens are
rejected. -/
theorem parse_eq_rejected {q : List Char} {r : Rejection}
    (rejected : parse table q = .error (.rejected r)) :
    scan q = .error (.rejected r) ∨
      ∃ qs, scan q = .ok qs ∧ parseTokens table q.length qs = .error (.rejected r) := by
  unfold parse at rejected
  split at rejected
  · cases rejected
  · split at rejected
    · next unread =>
      cases rejected
      exact .inl unread
    · next qs scanned => exact .inr ⟨qs, scanned, map_eq_error_iff.mp rejected⟩

/-- Joined to an expression, a rejected text is rejected as before, but for where. -/
theorem parse_joined {p q : List Char} {n : Node} {r : Rejection}
    (accepted : parse table p = .ok (some n)) (rejected : parse table q = .error (.rejected r)) :
    parse table (joined p q) = .error (.rejected (r.relocate (p.length + 5 + ·))) := by
  obtain ⟨ps, scanned⟩ : ∃ ps, scan p = .ok ps := by
    unfold parse at accepted
    split at accepted
    · cases accepted
    · split at accepted
      · cases accepted
      · next ps scanned => exact ⟨ps, scanned⟩
  have derived := (parse_eq_some_iff scanned).mp accepted
  have both := scan_joined scanned q
  simp only [parse, not_isBlankText_joined, Bool.false_eq_true, if_false, both, joined_length]
  rcases parse_eq_rejected rejected with unread | ⟨qs, read, refused⟩
  · rw [unread]
    rfl
  · have moved : parseTokens table (p.length + 5 + q.length)
        (qs.map (Token.relocate (p.length + 5 + ·))) = relocated (p.length + 5 + ·) id _ :=
      parseTokens_relocated table q.length (scan_iff.mp read).startsAlone
    rw [refused] at moved
    have same : (parseTokens table (p.length + 5 + q.length) (ps ++ jointAt (p.length + 1) ::
        qs.map (Token.relocate (p.length + 5 + ·)))).map (fun _ => ()) = _ :=
      parseTokens_joined (jointAt_isWord _) _ derived
    rw [moved] at same
    simp only [read, relocated_ok]
    exact map_eq_error_iff.mpr (map_eq_error_iff.mp same)

/-- The tokens of a text all stand in it, so the parser complains about a character of the text or
about its end. -/
theorem position_le_of_parse {q : List Char} {r : Rejection}
    (rejected : parse table q = .error (.rejected r)) : r.position ≤ q.length := by
  rcases parse_eq_rejected rejected with unread | ⟨qs, read, refused⟩
  · rcases scanAfter_outcome 0 0 q (Nat.zero_le _) with ⟨ts, q', -, scanned⟩ | stopped
    · cases unread.symm.trans scanned
    · obtain ⟨ts, at_, c, rest, error, before, -, same⟩ := stopped
      have position := before.position
      cases error with
      | number e => cases unread.symm.trans same
      | reason reason =>
        cases unread.symm.trans same
        simp at position
        dsimp only
        omega
  · -- Cutting off positions at the end changes no token, and so not the rejection either.
    have tokens := scan_iff.mp read
    have unmoved : qs.map (Token.relocate (min q.length)) = qs := by
      refine (List.map_congr_left fun t member => ?_).trans (List.map_id qs)
      have inside : t.position ≤ q.length := (tokens.mem_position t member).2.le
      simp only [Token.relocate, Nat.min_eq_right inside, id]
    have moved : parseTokens table (min q.length q.length)
        (qs.map (Token.relocate (min q.length))) = relocated (min q.length) id _ :=
      parseTokens_relocated table q.length tokens.startsAlone
    rw [unmoved, Nat.min_self, refused] at moved
    have fixed : r = r.relocate (min q.length) := by simpa [relocated, Failure.relocate] using moved
    rw [fixed, Rejection.relocate_position]
    split
    · exact Nat.zero_le _
    · exact Nat.min_le_left _ _

/-- A rejected text that is joined to an expression by `AND` is rejected for the same reason, at a
position that has moved with it, so that it never lies in the expression. The one exception is a
filter with a single signature that has no arguments: its complaint is always at position 0. -/
theorem rejection_moves {table : Table} {p q : List Char} {n : Node} {r : Rejection}
    (accepted : parse table p = .ok (some n)) (rejected : parse table q = .error (.rejected r)) :
    r.position ≤ q.length ∧
      ∃ moved, parse table (p ++ " AND ".toList ++ q) = .error (.rejected moved) ∧
        moved.reason = r.reason ∧ moved.message = r.message ∧
        (moved.position = p.length + 5 + r.position ↔ r.isUnplaced = false) ∧
        (r.isUnplaced = true → r.position = 0 ∧ moved.position = 0) := by
  have text : p ++ " AND ".toList ++ q = joined p q := by simp [joined]
  rw [text]
  refine ⟨position_le_of_parse rejected, _, parse_joined accepted rejected, ?_⟩
  refine ⟨?_, ?_, ?_, fun unplaced => ?_⟩
  · exact r.relocate_reason
  · rw [Rejection.message, r.relocate_reason, Rejection.message]
  · rw [r.relocate_position]
    cases r.isUnplaced with
    | false => simp
    | true =>
      simp only [if_true, Bool.true_eq_false, iff_false]
      omega
  · rw [r.relocate_position, if_pos unplaced]
    exact ⟨(Rejection.isUnplaced_iff.mp unplaced).2, rfl⟩

/-- A complaint about the name of a filter moves with the text. A filter without its one argument is
complained about at the start, where the valid expression stands. -/
theorem rejection_moves_missing_argument :
    (∃ moved, parse Table.default "PrefixFilter ('a') AND Bogus (1)".toList =
        .error (.rejected moved) ∧ moved.position = 23) ∧
      ∃ moved, parse Table.default "KeyOnlyFilter () AND PageFilter ()".toList =
          .error (.rejected moved) ∧
        moved.message = "Expected 1 arguments but got 0" ∧ moved.position = 0 := by
  have accepted : ∀ p ∈ ["PrefixFilter ('a')".toList, "KeyOnlyFilter ()".toList],
      ∃ n, parse Table.default p = .ok (some n) := by
    have isTree : ∀ p ∈ ["PrefixFilter ('a')".toList, "KeyOnlyFilter ()".toList],
        (parse Table.default p).toOption.join.isSome = true := by decide +kernel
    intro p member
    obtain ⟨n, tree⟩ := Option.isSome_iff_exists.mp (isTree p member)
    exact ⟨n, toOption_eq_some (Option.join_eq_some_iff.mp tree)⟩
  constructor
  · obtain ⟨n, tree⟩ := accepted _ (.head _)
    have rejected : rejection? (parse Table.default "Bogus (1)".toList) =
        some ⟨.unknownFilter "Bogus", 0⟩ := by decide +kernel
    obtain ⟨-, moved, again, -, -, position, -⟩ :=
      rejection_moves tree (eq_of_rejection? rejected)
    exact ⟨moved, again, position.mpr (by decide)⟩
  · obtain ⟨n, tree⟩ := accepted "KeyOnlyFilter ()".toList (by simp)
    have rejected : rejection? (parse Table.default "PageFilter ()".toList) =
        some ⟨.argumentCount 1 0, 0⟩ := by decide +kernel
    obtain ⟨-, moved, again, -, message, -, unplaced⟩ :=
      rejection_moves tree (eq_of_rejection? rejected)
    exact ⟨moved, again, message.trans (by decide +kernel), (unplaced (by decide)).2⟩

end WideColumn.Filter
