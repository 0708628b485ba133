import WideColumn.Proofs.Filter.Lexemes
import WideColumn.Proofs.Filter.Relocation

/-! The tokens of a text as a division of it. Every token is cut out of the text and is the longest
lexeme at its place, and between the tokens stand blanks alone. This leaves no choice: a text has
one division at most. -/
namespace WideColumn.Filter

open Text (isBlank isDigit)

/-- The position right behind a token. -/
def Token.stop (t : Token) : Nat := t.position + t.text.length

/-- Tokens that divide a text. -/
structure Divides (ts : List Token) (cs : List Char) : Prop where
  /-- The last token is the end of the text, and no other one is. -/
  ends : ∃ before, ts = before ++ [Token.finish cs.length] ∧ ∀ t ∈ before, t.kind ≠ .finish
  increasing : (ts.map Token.position).Pairwise (· < ·)
  apart : ts.Pairwise fun t u => t.stop ≤ u.position
  slice : ∀ t ∈ ts, (cs.drop t.position).take t.text.length = t.text
  /-- Nothing but blanks is left out. -/
  blank : ∀ (i : Nat) (inside : i < cs.length),
    (∀ t ∈ ts, ¬ (t.position ≤ i ∧ i < t.stop)) → isBlank cs[i] = true
  spells : ∀ t ∈ ts, t.kind ≠ .finish → IsLexeme t.kind t.text
  /-- No lexeme of any kind that starts where a token does is longer than the token. -/
  longest : ∀ t ∈ ts, ∀ kind text, IsLexeme kind text → text <+: cs.drop t.position →
    text.length ≤ t.text.length
  /-- The character behind a number is no digit. -/
  number : ∀ t ∈ ts, ∀ value, t.kind = .number value → Stops isDigit (cs.drop t.stop)
  /-- The character behind a name cannot go on with it. -/
  name : ∀ t ∈ ts, t.kind = .name → Stops isNameRest (cs.drop t.stop)

/-! The tokens of a text. -/

/-- A token as it is read in a text, at its position. -/
inductive ReadIn (cs : List Char) (t : Token) : Prop
  | intro {c : Char} {body after : List Char} (here : cs.drop t.position = c :: (body ++ after))
      (text : t.text = c :: body) (visible : isBlank c = false)
      (read : lexeme c (body ++ after) = .ok (t.kind, body.length)) : ReadIn cs t

theorem Prefix.readIn {p q : Nat} {cs rest all : List Char} {ts : List Token}
    (h : Prefix p cs ts q rest) (place : all.drop p = cs) : ∀ t ∈ ts, ReadIn all t := by
  induction h with
  | done => simp
  | blank _ _ ih => exact ih (by rw [← List.drop_drop, place]; rfl)
  | token visible read _ ih =>
    refine List.forall_mem_cons.mpr ⟨.intro place rfl visible read, ih ?_⟩
    rw [Nat.add_assoc, ← List.drop_drop, place, Nat.add_comm 1]
    exact List.drop_left

namespace ReadIn

variable {cs : List Char} {t : Token}

theorem behind {body after : List Char} {c : Char}
    (here : cs.drop t.position = c :: (body ++ after)) (text : t.text = c :: body) :
    cs.drop t.stop = after := by
  rw [Token.stop, ← List.drop_drop, here, text]
  exact List.drop_left

theorem slice (h : ReadIn cs t) : (cs.drop t.position).take t.text.length = t.text := by
  obtain ⟨here, text, -, -⟩ := h
  rw [here, text]
  exact List.take_left

theorem bounds (h : ReadIn cs t) : t.position < t.stop ∧ t.stop ≤ cs.length := by
  obtain ⟨here, text, -, -⟩ := h
  have count := congrArg List.length here
  simp only [List.length_drop, List.length_cons, List.length_append] at count
  simp only [Token.stop, text, List.length_cons]
  omega

theorem spells (h : ReadIn cs t) : IsLexeme t.kind t.text := by
  obtain ⟨-, text, visible, read⟩ := h
  exact text ▸ isLexeme_of_lexeme visible read

theorem longest (h : ReadIn cs t) {kind : TokenKind} {text : List Char}
    (spelled : IsLexeme kind text) (starts : text <+: cs.drop t.position) : text.length ≤ t.text.length := by
  obtain ⟨here, same, -, read⟩ := h
  rw [here] at starts
  rw [same]
  cases text with
  | nil => exact Nat.zero_le _
  | cons d run =>
    obtain ⟨left, cut⟩ := starts
    obtain ⟨rfl, tail⟩ := List.cons.inj cut
    have tail : run ++ left = _ := tail
    rw [← tail] at read
    exact Nat.succ_le_succ (spelled.length_le read)

/-- A run of characters is read to its end. -/
theorem stops (h : ReadIn cs t) :
    (t.kind = .name → Stops isNameRest (cs.drop t.stop)) ∧
      ∀ value, t.kind = .number value → Stops isDigit (cs.drop t.stop) := by
  obtain ⟨here, text, -, read⟩ := h
  rw [behind here text]
  have spelled := lexeme_sound read
  generalize count : List.length _ = n at spelled
  generalize t.kind = kind at spelled
  cases spelled with
  | name => exact ⟨fun _ => stops_takeWhile (takeWhile_front count.symm), nofun⟩
  | number => exact ⟨nofun, fun _ _ => stops_takeWhile (takeWhile_front count.symm)⟩
  | _ => exact ⟨nofun, nofun⟩

end ReadIn

theorem Prefix.stop_le {p q : Nat} {cs rest : List Char} {ts : List Token}
    (h : Prefix p cs ts q rest) : ts.Pairwise fun t u => t.stop ≤ u.position := by
  induction h with
  | done => exact .nil
  | blank _ _ ih => exact ih
  | token _ _ more ih =>
    refine .cons (fun u member => ?_) ih
    have := (more.mem_position u member).1
    simp only [Token.stop, List.length_cons]
    omega

/-- Characters that are not in a token have been skipped. -/
theorem Prefix.isBlank_between {p q : Nat} {cs rest : List Char} {ts : List Token}
    (h : Prefix p cs ts q rest) (i : Nat) (inside : i < cs.length) (before : p + i < q)
    (outside : ∀ t ∈ ts, ¬ (t.position ≤ p + i ∧ p + i < t.stop)) : isBlank cs[i] = true := by
  induction h generalizing i with
  | done => omega
  | @blank p q c cs rest ts space _ ih =>
    cases i with
    | zero => exact space
    | succ i =>
      have later : p + (i + 1) = p + 1 + i := by omega
      rw [later] at before outside
      exact ih i (Nat.lt_of_succ_lt_succ inside) before outside
  | @token p q c body cs rest kind ts _ _ _ ih =>
    obtain ⟨behind, outside⟩ := List.forall_mem_cons.mp outside
    simp only [Token.stop, List.length_cons] at behind
    obtain ⟨i, rfl⟩ : ∃ j, i = j + (c :: body).length :=
      ⟨i - (c :: body).length, by rw [List.length_cons]; omega⟩
    have later : p + (i + (c :: body).length) = p + 1 + body.length + i := by
      rw [List.length_cons]
      omega
    rw [later] at before outside
    have more : i < cs.length := by
      rw [List.length_append] at inside
      omega
    rw [← List.getElem_append_right' (c :: body) more]
    exact ih i more before outside

theorem divides_of_scan {cs : List Char} {ts : List Token} (scanned : scan cs = .ok ts) :
    Divides (ts ++ [Token.finish cs.length]) cs := by
  have front : Prefix 0 cs ts cs.length [] := scan_iff.mp scanned
  have read : ∀ t ∈ ts, ReadIn cs t := front.readIn rfl
  -- The end stands behind all tokens that are read, and has no characters itself.
  have each {P : Token → Prop} (one : ∀ t, ReadIn cs t → P t) (last : P (Token.finish cs.length)) :
      ∀ t ∈ ts ++ [Token.finish cs.length], P t := by
    intro t member
    rcases List.mem_append.mp member with inside | atEnd
    · exact one t (read t inside)
    · exact List.mem_singleton.mp atEnd ▸ last
  have empty : cs.drop cs.length = [] := List.drop_length
  constructor
  case ends =>
    refine ⟨ts, rfl, fun t member isEnd => ?_⟩
    have spelled := (read t member).spells
    rw [isEnd] at spelled
    cases spelled
  case increasing =>
    refine List.pairwise_map.mpr (List.pairwise_append.mpr ⟨?_, List.pairwise_singleton _ _, ?_⟩)
    · exact front.stop_le.imp_of_mem fun member _ before =>
        (read _ member).bounds.1.trans_le before
    · intro t member u last
      rw [List.mem_singleton.mp last]
      exact (front.mem_position t member).2
  case apart =>
    refine List.pairwise_append.mpr ⟨front.stop_le, List.pairwise_singleton _ _, ?_⟩
    intro t member u last
    rw [List.mem_singleton.mp last]
    exact (read t member).bounds.2
  case slice => exact each (fun t h => h.slice) rfl
  case blank =>
    intro i inside outside
    refine front.isBlank_between i inside (by omega) fun t member => ?_
    rw [Nat.zero_add]
    exact outside t (List.mem_append_left _ member)
  case spells => exact each (fun t h _ => h.spells) fun notEnd => absurd rfl notEnd
  case longest =>
    refine each (fun t h _ _ => h.longest) fun kind text _ starts => ?_
    have none : text = [] := List.prefix_nil.mp (empty ▸ starts)
    exact none ▸ le_rfl
  case number => exact each (fun t h => h.stops.2) nofun
  case name => exact each (fun t h => h.stops.1) nofun

/-! There is one division at most. -/

/-- Tokens that divide a text from a position on, without its end. -/
structure DividesFrom (p : Nat) (ts : List Token) (cs : List Char) : Prop where
  inside : ∀ t ∈ ts, p ≤ t.position
  apart : ts.Pairwise fun t u => t.stop ≤ u.position
  slice : ∀ t ∈ ts, (cs.drop t.position).take t.text.length = t.text
  spells : ∀ t ∈ ts, IsLexeme t.kind t.text
  longest : ∀ t ∈ ts, ∀ kind text, IsLexeme kind text → text <+: cs.drop t.position →
    text.length ≤ t.text.length
  blank : ∀ (i : Nat) (inside : i < cs.length), p ≤ i →
    (∀ t ∈ ts, ¬ (t.position ≤ i ∧ i < t.stop)) → isBlank cs[i] = true

namespace DividesFrom

variable {p : Nat} {cs : List Char} {t u : Token} {ts us : List Token}

theorem starts (h : DividesFrom p ts cs) (member : t ∈ ts) : t.text <+: cs.drop t.position := by
  rw [← h.slice t member]
  exact List.take_prefix _ _

/-- A token starts with a character that is not blank. -/
theorem visible (h : DividesFrom p ts cs) (member : t ∈ ts) :
    ∃ inside : t.position < cs.length, isBlank cs[t.position] = false := by
  have spelled := h.spells t member
  obtain ⟨c, body, text⟩ := spelled.exists_cons
  rw [text] at spelled
  obtain ⟨left, cut⟩ := h.starts member
  rw [text] at cut
  have first : cs[t.position]? = some c := by
    rw [← List.head?_drop, ← cut]
    rfl
  obtain ⟨inside, same⟩ := List.getElem?_eq_some_iff.mp first
  exact ⟨inside, same ▸ spelled.read.1⟩

theorem position_lt_stop (h : DividesFrom p ts cs) (member : t ∈ ts) : t.position < t.stop := by
  obtain ⟨c, body, text⟩ := (h.spells t member).exists_cons
  simp only [Token.stop, text, List.length_cons]
  omega

theorem tail (h : DividesFrom p (t :: ts) cs) : DividesFrom t.stop ts cs where
  inside := (List.pairwise_cons.mp h.apart).1
  apart := (List.pairwise_cons.mp h.apart).2
  slice u member := h.slice u (.tail _ member)
  spells u member := h.spells u (.tail _ member)
  longest u member := h.longest u (.tail _ member)
  blank i inside behind outside := by
    have here := h.inside t (.head _)
    have more := h.position_lt_stop (.head _)
    refine h.blank i inside (by omega) (List.forall_mem_cons.mpr ⟨by omega, outside⟩)

/-- A token does not stand in front of all tokens of another division. -/
theorem position_le (h : DividesFrom p (t :: ts) cs) (other : DividesFrom p (u :: us) cs) :
    u.position ≤ t.position := by
  obtain ⟨inside, visible⟩ := h.visible (.head _)
  refine Nat.not_lt.mp fun before => ?_
  have outside : ∀ v ∈ u :: us, ¬ (v.position ≤ t.position ∧ t.position < v.stop) := by
    refine List.forall_mem_cons.mpr ⟨by omega, fun v member => ?_⟩
    have := (List.pairwise_cons.mp other.apart).1 v member
    have := other.position_lt_stop (.head _)
    omega
  have blank := other.blank t.position inside (h.inside t (.head _)) outside
  simp [visible] at blank

theorem head_eq (h : DividesFrom p (t :: ts) cs) (other : DividesFrom p (u :: us) cs) : t = u := by
  have position : t.position = u.position := le_antisymm (other.position_le h) (h.position_le other)
  have starts := h.starts (.head _)
  have starts' := other.starts (.head _)
  have length : t.text.length = u.text.length := by
    refine le_antisymm ?_ ?_
    · exact other.longest u (.head _) _ _ (h.spells t (.head _)) (position ▸ starts)
    · exact h.longest t (.head _) _ _ (other.spells u (.head _)) (position ▸ starts')
  have text : t.text = u.text := by
    rw [← h.slice t (.head _), ← other.slice u (.head _), position, length]
  have spelled := h.spells t (.head _)
  rw [text] at spelled
  have kind : t.kind = u.kind := spelled.unique (other.spells u (.head _))
  cases t
  cases u
  simp_all

theorem ne_nil (h : DividesFrom p (t :: ts) cs) (other : DividesFrom p [] cs) : False := by
  obtain ⟨inside, visible⟩ := h.visible (.head _)
  have blank := other.blank t.position inside (h.inside t (.head _)) nofun
  simp [visible] at blank

theorem unique (h : DividesFrom p ts cs) (other : DividesFrom p us cs) : ts = us := by
  induction ts generalizing p us with
  | nil =>
    cases us with
    | nil => rfl
    | cons u us => exact (other.ne_nil h).elim
  | cons t ts ih =>
    cases us with
    | nil => exact (h.ne_nil other).elim
    | cons u us =>
      obtain rfl := h.head_eq other
      rw [ih h.tail other.tail]

end DividesFrom

theorem Divides.from_start {cs : List Char} {ts : List Token}
    (h : Divides (ts ++ [Token.finish cs.length]) cs) (others : ∀ t ∈ ts, t.kind ≠ .finish) :
    DividesFrom 0 ts cs where
  inside _ _ := Nat.zero_le _
  apart := (List.pairwise_append.mp h.apart).1
  slice t member := h.slice t (List.mem_append_left _ member)
  spells t member := h.spells t (List.mem_append_left _ member) (others t member)
  longest t member := h.longest t (List.mem_append_left _ member)
  blank i inside _ outside := by
    refine h.blank i inside fun t member covers => ?_
    rcases List.mem_append.mp member with front | last
    · exact outside t front covers
    · rw [List.mem_singleton.mp last] at covers
      have atEnd : cs.length ≤ i := covers.1
      omega

theorem Divides.unique {cs : List Char} {ts us : List Token} (h : Divides ts cs)
    (other : Divides us cs) : ts = us := by
  obtain ⟨ts, rfl, tokens⟩ := h.ends
  obtain ⟨us, rfl, tokens'⟩ := other.ends
  rw [(h.from_start tokens).unique (other.from_start tokens')]

/-- The tokens of a text divide it, and no other tokens do. -/
theorem tokenize_divides {cs : List Char} {ts : List Token} (tokens : tokenize cs = .ok ts) :
    Divides ts cs ∧ ∀ us, Divides us cs → us = ts := by
  obtain ⟨before, scanned, rfl⟩ := map_eq_ok_iff.mp tokens
  have divides := divides_of_scan scanned
  exact ⟨divides, fun us other => other.unique divides⟩

/-- Without any blanks: an operator and a sign of equality, a string with a quote in it, and a
number that is cut off from the name in front of it by its sign and ends where a name starts. -/
theorem tokenize_divides_without_blanks :
    Divides [⟨.op .lessOrEqual, ['<', '='], 0⟩, ⟨.op .equal, ['='], 2⟩,
      ⟨.string ['a', '\'', 'b'], "'a''b'".toList, 3⟩, ⟨.name, "c1".toList, 9⟩,
      ⟨.number (-20), "-20".toList, 11⟩, ⟨.name, "d".toList, 14⟩, Token.finish 15]
      "<=='a''b'c1-20d".toList := by
  refine (tokenize_divides (toOption_eq_some ?_)).1
  decide +kernel

end WideColumn.Filter
