import WideColumn.Proofs.Filter.Scanning
import WideColumn.Proofs.Filter.Soundness

/-! Tokens at other positions. The parser reads kinds and texts alone, so it commutes with every map
of positions: it gives the same tree, or the same complaint about the same token. A complaint that
a filter has no arguments is about no token, and stays at the start of the text. -/
namespace WideColumn.Filter

variable {α β γ δ : Type}

/-- Complaints about a list of arguments that may be empty. -/
def Reason.lacksArguments : Reason → Bool
  | argumentCount _ 0 | tooFewArguments _ => true
  | _ => false

/-- A filter with one signature has no arguments at all. -/
def Rejection.isUnplaced (r : Rejection) : Bool := r.reason.lacksArguments && r.position == 0

theorem Rejection.isUnplaced_iff {r : Rejection} :
    r.isUnplaced = true ↔ r.reason.lacksArguments = true ∧ r.position = 0 := by
  simp [isUnplaced]

def Token.relocate (f : Nat → Nat) (t : Token) : Token := { t with position := f t.position }

def Rejection.relocate (f : Nat → Nat) (r : Rejection) : Rejection :=
  if r.isUnplaced then r else { r with position := f r.position }

def Failure.relocate (f : Nat → Nat) : Failure → Failure
  | rejected r => rejected (r.relocate f)
  | e => e

/-- An outcome over relocated tokens, with what is read changed by `g`. -/
def relocated (f : Nat → Nat) (g : α → β) : Except Failure α → Except Failure β
  | .ok a => .ok (g a)
  | .error e => .error (e.relocate f)

variable {f : Nat → Nat}

theorem Rejection.relocate_reason (r : Rejection) : (r.relocate f).reason = r.reason := by
  unfold relocate
  split <;> rfl

theorem Rejection.relocate_position (r : Rejection) :
    (r.relocate f).position = if r.isUnplaced then 0 else f r.position := by
  unfold relocate
  split
  · next unplaced => exact (isUnplaced_iff.mp unplaced).2
  · rfl

@[simp] theorem relocate_kind (t : Token) : (t.relocate f).kind = t.kind := rfl

@[simp] theorem relocate_text (t : Token) : (t.relocate f).text = t.text := rfl

@[simp] theorem relocate_isWord (word : String) (t : Token) :
    (t.relocate f).isWord word = t.isWord word := rfl

@[simp] theorem relocate_isArgument (t : Token) : (t.relocate f).isArgument = t.isArgument := rfl

@[simp] theorem relocated_ok (g : α → β) (a : α) : relocated f g (.ok a) = .ok (g a) := rfl

/-- A complaint that is about a token moves with it. -/
theorem reject_relocated {reason : Reason} (placed : reason.lacksArguments = false) (position : Nat)
    (g : α → β) : reject reason (f position) = relocated f g (reject reason position) := by
  simp [reject, relocated, Failure.relocate, Rejection.relocate, Rejection.isUnplaced, placed]

/-- A complaint about arguments is about one of them, as long as none starts the text. -/
theorem reject_relocated_of_pos {reason : Reason} {position : Nat} (inside : position ≠ 0)
    (g : α → β) : reject reason (f position) = relocated f g (reject reason position) := by
  simp [reject, relocated, Failure.relocate, Rejection.relocate, Rejection.isUnplaced, inside]

/-- Without a token to be about, it stays. -/
theorem reject_unplaced {reason : Reason} (lacks : reason.lacksArguments = true) (g : α → β) :
    reject reason 0 = relocated f g (reject reason 0) := by
  simp [reject, relocated, Failure.relocate, Rejection.relocate, Rejection.isUnplaced, lacks]

theorem bind_relocated {x' : Except Failure β} {x : Except Failure α} {next' : β → Except Failure δ}
    {next : α → Except Failure γ} {g : α → β} {h : γ → δ} (first : x' = relocated f g x)
    (rest : ∀ a, x = .ok a → next' (g a) = relocated f h (next a)) :
    (x' >>= next') = relocated f h (x >>= next) := by
  rw [first]
  cases read : x with
  | error e => rfl
  | ok a => exact rest a read

theorem map_relocated {x' : Except Failure β} {x : Except Failure α} {k' : β → δ} {k : α → γ}
    {g : α → β} {h : γ → δ} (first : x' = relocated f g x) (commutes : ∀ a, k' (g a) = h (k a)) :
    x'.map k' = relocated f h (x.map k) := by
  rw [first]
  cases x with
  | error e => rfl
  | ok a => exact congrArg Except.ok (commutes a)

/-! The scanner. -/

theorem lexeme_error_placed {c : Char} {rest : List Char} {reason : Reason}
    (unread : lexeme c rest = .error (.reason reason)) : reason.lacksArguments = false := by
  unfold lexeme at unread
  split at unread
  · cases unread
  split at unread
  · cases unread
  split at unread
  · cases unread
  split at unread
  · split at unread <;> cases unread
    rfl
  split at unread
  · dsimp only at unread
    split at unread <;> cases unread
  · split at unread
    · cases unread
    · split at unread <;> cases unread
      rfl

/-- A text that starts later has its tokens, or what keeps it from being scanned, as much later. -/
theorem scanAfter_relocated (d skip p : Nat) (cs : List Char) :
    scanAfter skip (d + p) cs =
      relocated (d + ·) (List.map (Token.relocate (d + ·))) (scanAfter skip p cs) := by
  induction cs generalizing skip p with
  | nil => cases skip <;> rfl
  | cons c rest ih =>
    cases skip with
    | succ skip => exact ih skip (p + 1)
    | zero =>
      simp only [scanAfter]
      split
      · exact ih 0 (p + 1)
      · split
        · next reason unread => exact reject_relocated (lexeme_error_placed unread) p _
        · rfl
        · next kind n read => exact map_relocated (ih n (p + 1)) fun _ => rfl

/-! The arguments of a leaf. -/

theorem comparator_relocated (position : Nat) (cs : List Char) (previous : Option Arg) :
    comparator (f position) cs previous = relocated f id (comparator position cs previous) := by
  unfold comparator
  split
  · exact reject_relocated rfl position id
  · split
    · exact reject_relocated rfl position id
    · split
      · exact reject_relocated rfl position id
      · rfl

theorem convert_relocated (kind : ArgKind) (t : Token) (previous : Option Arg) :
    convert kind (t.relocate f) previous = relocated f id (convert kind t previous) := by
  obtain ⟨spelled, text, position⟩ := t
  unfold convert
  simp only [Token.relocate]
  split
  · rfl
  · split
    · exact reject_relocated rfl position id
    · rfl
  · rfl
  · rfl
  · exact map_relocated (comparator_relocated position _ previous) fun _ => rfl
  · exact reject_relocated rfl position id

theorem convertAll_relocated (previous : Option Arg) (kinds : List ArgKind) (ts : List Token) :
    convertAll previous kinds (ts.map (Token.relocate f)) =
      relocated f id (convertAll previous kinds ts) := by
  induction kinds generalizing previous ts with
  | nil => rfl
  | cons kind kinds ih =>
    cases ts with
    | nil => rfl
    | cons t ts =>
      simp only [List.map_cons, convertAll]
      refine bind_relocated (convert_relocated kind t previous) fun arg _ => ?_
      exact bind_relocated (ih (some arg) ts) fun more _ => rfl

namespace Signature

variable {s : Signature} {ts : List Token}

/-- The position that a complaint about too few or too many arguments gives. -/
theorem reject_count {reason : Reason} {t : Option Token} (inside : ∀ u ∈ t, u.position ≠ 0)
    (lacks : t = none → reason.lacksArguments = true) (g : α → β) :
    reject reason (((t.map (Token.relocate f)).map Token.position).getD 0) =
      relocated f g (reject reason ((t.map Token.position).getD 0)) := by
  cases t with
  | none => exact reject_unplaced (lacks rfl) g
  | some t => exact reject_relocated_of_pos (inside t rfl) g

theorem bind_relocated (inside : ∀ t ∈ ts, t.position ≠ 0) :
    s.bind (ts.map (Token.relocate f)) = relocated f id (s.bind ts) := by
  unfold bind
  simp only [List.length_map, List.getLast?_map, List.head?_map]
  cases s.rest with
  | some r =>
    dsimp only
    generalize s.fixed.length + (if r.atLeastOnce then 1 else 0) = least
    split
    · exact reject_count (fun t last => inside t (List.mem_of_getLast? last)) (fun _ => rfl) id
    · exact convertAll_relocated none _ ts
  | none =>
    dsimp only
    split
    · rfl
    · split
      · refine reject_count (fun t first => inside t (List.mem_of_head? first)) ?_ id
        intro none
        rw [List.head?_eq_none_iff.mp none]
        rfl
      · exact convertAll_relocated none _ ts

end Signature

theorem bindFirst_relocated {ts : List Token} (inside : ∀ t ∈ ts, t.position ≠ 0)
    (signatures : List Signature) :
    bindFirst signatures (ts.map (Token.relocate f)) =
      relocated f id (bindFirst signatures ts) := by
  induction signatures with
  | nil => rfl
  | cons s signatures ih =>
    simp only [bindFirst, Signature.bind_relocated inside]
    cases s.bind ts with
    | ok args => rfl
    | error e =>
      cases e with
      | rejected r => exact ih
      | number e => rfl
      | namelessKind => rfl

theorem bindArguments_relocated {ts : List Token} (inside : ∀ t ∈ ts, t.position ≠ 0)
    (signatures : List Signature) (name : Token) :
    bindArguments signatures (name.relocate f) (ts.map (Token.relocate f)) =
      relocated f id (bindArguments signatures name ts) := by
  unfold bindArguments
  split
  · exact Signature.bind_relocated inside
  · rw [bindFirst_relocated inside]
    cases bindFirst signatures ts with
    | error e => rfl
    | ok found =>
      cases found with
      | none => exact reject_relocated rfl name.position id
      | some args => rfl

/-! Tokens off the front of a list. -/

theorem found_relocated (ts : List Token) : found (ts.map (Token.relocate f)) = found ts := by
  cases ts <;> rfl

theorem positionOf_relocated (finish : Nat) (ts : List Token) :
    positionOf (f finish) (ts.map (Token.relocate f)) = f (positionOf finish ts) := by
  cases ts <;> rfl

theorem startsWith_relocated (word : String) (ts : List Token) :
    startsWith word (ts.map (Token.relocate f)) = startsWith word ts := by
  cases ts <;> rfl

theorem expect_relocated (kind : TokenKind) (what : String) (finish : Nat) (ts : List Token) :
    expect kind what (f finish) (ts.map (Token.relocate f)) =
      relocated f (List.map (Token.relocate f)) (expect kind what finish ts) := by
  cases ts with
  | nil => exact reject_relocated rfl finish _
  | cons t ts =>
    simp only [List.map_cons, expect, relocate_kind]
    split
    · rfl
    · exact reject_relocated rfl t.position _

theorem argument_relocated (finish : Nat) (ts : List Token) :
    argument (f finish) (ts.map (Token.relocate f)) =
      relocated f (Prod.map (Token.relocate f) (List.map (Token.relocate f)))
        (argument finish ts) := by
  cases ts with
  | nil => exact reject_relocated rfl finish _
  | cons t ts =>
    simp only [List.map_cons, argument, relocate_isArgument]
    split
    · rfl
    · exact reject_relocated rfl t.position _

/-- Arguments that have been read, and the tokens behind them. -/
abbrev relocateBoth (f : Nat → Nat) : List Token × List Token → List Token × List Token :=
  Prod.map (List.map (Token.relocate f)) (List.map (Token.relocate f))

theorem moreArguments_relocated (finish : Nat) (ts : List Token) :
    moreArguments (f finish) (ts.map (Token.relocate f)) =
      relocated f (relocateBoth f) (moreArguments finish ts) := by
  induction ts using moreArguments.induct with
  | case1 => rfl
  | case2 comma separator a rest argument ih =>
    simp only [List.map_cons, moreArguments, relocate_kind, separator, relocate_isArgument,
      argument, if_true]
    exact map_relocated ih fun _ => rfl
  | case3 comma separator a rest refused =>
    simp only [List.map_cons, moreArguments, relocate_kind, separator, relocate_isArgument,
      refused, if_true, Bool.false_eq_true, if_false]
    exact reject_relocated rfl a.position _
  | case4 comma separator =>
    simp only [List.map_cons, List.map_nil, moreArguments, relocate_kind, separator, if_true]
    exact reject_relocated rfl finish _
  | case5 t ts other =>
    rw [List.map_cons, Grammar.moreArguments_stop other,
      Grammar.moreArguments_stop (t := t.relocate f) other]
    rfl

theorem arguments_relocated (finish : Nat) (ts : List Token) :
    arguments (f finish) (ts.map (Token.relocate f)) =
      relocated f (relocateBoth f) (arguments finish ts) := by
  have listed : (argument (f finish) (ts.map (Token.relocate f)) >>= fun first =>
      moreArguments (f finish) first.2 >>= fun more => .ok (first.1 :: more.1, more.2)) =
      relocated f (relocateBoth f) (argument finish ts >>= fun first =>
        moreArguments finish first.2 >>= fun more => .ok (first.1 :: more.1, more.2)) := by
    refine bind_relocated (argument_relocated finish ts) fun first _ => ?_
    exact bind_relocated (moreArguments_relocated finish first.2) fun _ _ => rfl
  cases ts with
  | nil => exact listed
  | cons t ts =>
    obtain ⟨kind, text, position⟩ := t
    cases kind with
    | rightParen => rfl
    | _ => exact listed

/-! The parser. -/

/-- Only the first token can stand at the start of the text. -/
def StartsAlone (ts : List Token) : Prop := ∀ t ∈ ts.tail, t.position ≠ 0

theorem StartsAlone.behind {used rest : List Token} (alone : StartsAlone (used ++ rest)) :
    StartsAlone rest := by
  intro t member
  refine alone t ?_
  cases used with
  | nil => exact member
  | cons u used => exact List.mem_append_right _ (List.mem_of_mem_tail member)

theorem Prefix.mem_position {p q : Nat} {cs rest : List Char} {ts : List Token}
    (h : Prefix p cs ts q rest) : ∀ t ∈ ts, p ≤ t.position ∧ t.position < q := by
  have ends : ∀ {p q cs rest ts}, Prefix p cs ts q rest → p ≤ q := by
    intro p q cs rest ts h
    induction h with
    | done => exact le_rfl
    | blank _ _ ih | token _ _ _ ih => omega
  induction h with
  | done => simp
  | blank _ _ ih => exact fun t member => ⟨by have := ih t member; omega, (ih t member).2⟩
  | @token p q c body cs rest kind ts _ _ more ih =>
    refine List.forall_mem_cons.mpr ⟨⟨le_rfl, ?_⟩, fun t member => ?_⟩
    · have := ends more
      dsimp only
      omega
    · have := ih t member
      omega

theorem Prefix.startsAlone {p q : Nat} {cs rest : List Char} {ts : List Token}
    (h : Prefix p cs ts q rest) : StartsAlone ts := by
  induction h with
  | done => simp [StartsAlone]
  | blank _ _ ih => exact ih
  | token _ _ more _ =>
    intro t member
    have := (more.mem_position t member).1
    omega

theorem Grammar.ArgumentTail.subset {ts args : List Token} (h : ArgumentTail ts args) :
    args ⊆ ts := by
  induction h with
  | nil => exact List.Subset.refl _
  | @cons comma a ts args _ _ _ ih =>
    exact List.subset_cons_of_subset comma (List.cons_subset_cons a ih)

theorem Grammar.Arguments.subset {ts args : List Token} (h : Arguments ts args) : args ⊆ ts := by
  cases h with
  | none => exact List.Subset.refl _
  | some _ tail => exact List.cons_subset_cons _ tail.subset

section
variable (table : Table) (finish : Nat)

theorem call_relocated (name : Token) {ts : List Token} (inside : ∀ t ∈ ts, t.position ≠ 0) :
    call table (f finish) (name.relocate f) (ts.map (Token.relocate f)) =
      relocated f (Prod.map id (List.map (Token.relocate f))) (call table finish name ts) := by
  simp only [call, relocate_text]
  by_cases keyword : keywords.contains (String.ofList name.text) = true
  · simp only [keyword, if_true]
    exact reject_relocated rfl name.position _
  · simp only [keyword, Bool.false_eq_true, if_false]
    split
    · exact reject_relocated rfl name.position _
    · next signatures known =>
      refine bind_relocated (expect_relocated _ _ finish ts) fun behind opens => ?_
      refine bind_relocated (arguments_relocated finish behind) ?_
      rintro ⟨args, left⟩ list
      refine bind_relocated (expect_relocated _ _ finish left) fun rest closes => ?_
      have given : ∀ t ∈ args, t.position ≠ 0 := by
        intro t member
        obtain ⟨opening, rfl, -⟩ := Grammar.expect_eq_ok opens
        obtain ⟨used, rfl, spelled⟩ := Grammar.arguments_sound list
        exact inside t (by simp [spelled.subset member])
      exact bind_relocated (bindArguments_relocated given signatures name) fun bound _ => rfl

mutual

theorem disjunction_relocated : ∀ depth ts, StartsAlone ts →
    disjunction table (f finish) depth (ts.map (Token.relocate f)) =
      relocated f (Prod.map id (List.map (Token.relocate f))) (disjunction table finish depth ts)
  | 0, ts, _ => by
    simp only [disjunction, found_relocated, positionOf_relocated]
    exact reject_relocated rfl _ _
  | depth + 1, ts, alone => by
    simp only [disjunction]
    refine bind_relocated (conjunction_relocated depth ts alone) fun (first, rest) read => ?_
    obtain ⟨used, rfl, -⟩ := Grammar.conjunction_sound depth read
    exact bind_relocated (moreDisjuncts_relocated depth rest alone.behind) fun _ _ => rfl

theorem moreDisjuncts_relocated : ∀ depth ts, StartsAlone ts →
    moreDisjuncts table (f finish) depth (ts.map (Token.relocate f)) =
      relocated f (Prod.map id (List.map (Token.relocate f))) (moreDisjuncts table finish depth ts)
  | 0, _, _ => rfl
  | depth + 1, ts, alone => by
    simp only [moreDisjuncts, startsWith_relocated, ← List.map_tail]
    split
    · have behind : StartsAlone ts.tail := fun t member => alone t (List.mem_of_mem_tail member)
      refine bind_relocated (conjunction_relocated depth ts.tail behind) fun (n, rest) read => ?_
      obtain ⟨used, same, -⟩ := Grammar.conjunction_sound depth read
      rw [same] at behind
      exact bind_relocated (moreDisjuncts_relocated depth rest behind.behind) fun _ _ => rfl
    · rfl

theorem conjunction_relocated : ∀ depth ts, StartsAlone ts →
    conjunction table (f finish) depth (ts.map (Token.relocate f)) =
      relocated f (Prod.map id (List.map (Token.relocate f))) (conjunction table finish depth ts)
  | 0, ts, _ => by
    simp only [conjunction, found_relocated, positionOf_relocated]
    exact reject_relocated rfl _ _
  | depth + 1, ts, alone => by
    simp only [conjunction]
    refine bind_relocated (unary_relocated depth ts alone) fun (first, rest) read => ?_
    obtain ⟨used, rfl, -⟩ := Grammar.unary_sound depth read
    exact bind_relocated (moreConjuncts_relocated depth rest alone.behind) fun _ _ => rfl

theorem moreConjuncts_relocated : ∀ depth ts, StartsAlone ts →
    moreConjuncts table (f finish) depth (ts.map (Token.relocate f)) =
      relocated f (Prod.map id (List.map (Token.relocate f))) (moreConjuncts table finish depth ts)
  | 0, _, _ => rfl
  | depth + 1, ts, alone => by
    simp only [moreConjuncts, startsWith_relocated, ← List.map_tail]
    split
    · have behind : StartsAlone ts.tail := fun t member => alone t (List.mem_of_mem_tail member)
      refine bind_relocated (unary_relocated depth ts.tail behind) fun (n, rest) read => ?_
      obtain ⟨used, same, -⟩ := Grammar.unary_sound depth read
      rw [same] at behind
      exact bind_relocated (moreConjuncts_relocated depth rest behind.behind) fun _ _ => rfl
    · rfl

theorem unary_relocated : ∀ depth ts, StartsAlone ts →
    unary table (f finish) depth (ts.map (Token.relocate f)) =
      relocated f (Prod.map id (List.map (Token.relocate f))) (unary table finish depth ts)
  | 0, ts, _ => by
    simp only [unary, found_relocated, positionOf_relocated]
    exact reject_relocated rfl _ _
  | depth + 1, [], _ => by
    simp only [List.map_nil, unary]
    exact reject_relocated rfl _ _
  | depth + 1, t :: ts, alone => by
    have behind : StartsAlone ts := fun u member => alone u (List.mem_of_mem_tail member)
    simp only [List.map_cons, unary, relocate_isWord, relocate_kind, relocate_text]
    by_cases operator : (t.isWord "SKIP" || t.isWord "WHILE") = true
    · simp only [operator, if_true]
      exact map_relocated (unary_relocated depth ts behind) fun _ => rfl
    · simp only [operator, Bool.false_eq_true, if_false]
      split
      · refine bind_relocated (disjunction_relocated depth ts behind) fun (n, rest) _ => ?_
        exact bind_relocated (expect_relocated _ _ finish rest) fun _ _ => rfl
      · exact call_relocated table finish t alone
      · exact reject_relocated rfl _ _

end

/-- Moving the tokens moves nothing but the position in a complaint. -/
theorem parseTokens_relocated {ts : List Token} (alone : StartsAlone ts) :
    parseTokens table (f finish) (ts.map (Token.relocate f)) =
      relocated f id (parseTokens table finish ts) := by
  unfold parseTokens
  rw [List.length_map, disjunction_relocated table finish _ ts alone]
  cases disjunction table finish (depthFor ts.length) ts with
  | error e => rfl
  | ok read =>
    obtain ⟨n, rest⟩ := read
    cases rest with
    | nil => rfl
    | cons t rest => exact reject_relocated rfl t.position id

end

end WideColumn.Filter
