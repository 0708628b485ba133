import WideColumn.Proofs.Filter.Soundness

/-! The bound on the depth of the recursion. A parser that is given more depth than its tokens can
cost reads the same, so no result and no rejection comes from the bound. -/
namespace WideColumn.Filter

open Grammar

variable {table : Table} {finish : Nat}

/-- Readers after each other that agree where they are used. -/
theorem sequence_congr {α β γ : Type} {p p' : List Token → Except Failure (α × List Token)}
    {q q' : List Token → Except Failure (β × List Token)} {ts : List Token} (f : α → β → γ)
    (first : p ts = p' ts) (second : ∀ a rest, p' ts = .ok (a, rest) → q rest = q' rest) :
    (do
      let (a, ts) ← p ts
      let (b, ts) ← q ts
      return (f a b, ts)) = (do
      let (a, ts) ← p' ts
      let (b, ts) ← q' ts
      return (f a b, ts)) := by
  rw [first]
  cases read : p' ts with
  | error e => rfl
  | ok result =>
    obtain ⟨a, rest⟩ := result
    simp [bind, Except.bind, second a rest read]

theorem Grammar.Reads.shorter {α : Type} {phrase : List Token → α → Prop}
    {parser : List Token → Except Failure (α × List Token)} (reads : Reads phrase parser)
    (visible : ∀ {ts a}, phrase ts a → ts ≠ []) {ts rest : List Token} {a : α}
    (read : parser ts = .ok (a, rest)) : rest.length < ts.length := by
  obtain ⟨used, rfl, spelled⟩ := reads read
  have used_pos := List.length_pos_iff.mpr (visible spelled)
  rw [List.length_append]
  omega

mutual

theorem disjunction_deeper : ∀ depth ts, 4 * ts.length + 2 ≤ depth →
    disjunction table finish (depth + 1) ts = disjunction table finish depth ts
  | 0, _, deep => absurd deep (by omega)
  | depth + 1, ts, deep => by
    simp only [disjunction]
    refine sequence_congr _ (conjunction_deeper depth ts (by omega)) fun n rest read => ?_
    have shorter := Reads.shorter (conjunction_sound depth) Conjunction.ne_nil read
    exact moreDisjuncts_deeper depth rest (by omega)

theorem moreDisjuncts_deeper : ∀ depth ts, 4 * ts.length ≤ depth →
    moreDisjuncts table finish (depth + 1) ts = moreDisjuncts table finish depth ts
  | 0, ts, deep => by
    obtain rfl := List.length_eq_zero_iff.mp (by omega : ts.length = 0)
    rfl
  | depth + 1, ts, deep => by
    unfold moreDisjuncts
    split
    · next starts =>
      cases ts with
      | nil => cases starts
      | cons word ts =>
        rw [List.length_cons] at deep
        refine sequence_congr _ (conjunction_deeper depth ts (by omega)) fun n rest read => ?_
        have shorter : rest.length < ts.length :=
          Reads.shorter (conjunction_sound depth) Conjunction.ne_nil read
        exact moreDisjuncts_deeper depth rest (by omega)
    · rfl

theorem conjunction_deeper : ∀ depth ts, 4 * ts.length + 1 ≤ depth →
    conjunction table finish (depth + 1) ts = conjunction table finish depth ts
  | 0, _, deep => absurd deep (by omega)
  | depth + 1, ts, deep => by
    simp only [conjunction]
    refine sequence_congr _ (unary_deeper depth ts (by omega)) fun n rest read => ?_
    have shorter := Reads.shorter (unary_sound depth) Unary.ne_nil read
    exact moreConjuncts_deeper depth rest (by omega)

theorem moreConjuncts_deeper : ∀ depth ts, 4 * ts.length ≤ depth →
    moreConjuncts table finish (depth + 1) ts = moreConjuncts table finish depth ts
  | 0, ts, deep => by
    obtain rfl := List.length_eq_zero_iff.mp (by omega : ts.length = 0)
    rfl
  | depth + 1, ts, deep => by
    unfold moreConjuncts
    split
    · next starts =>
      cases ts with
      | nil => cases starts
      | cons word ts =>
        rw [List.length_cons] at deep
        refine sequence_congr _ (unary_deeper depth ts (by omega)) fun n rest read => ?_
        have shorter : rest.length < ts.length :=
          Reads.shorter (unary_sound depth) Unary.ne_nil read
        exact moreConjuncts_deeper depth rest (by omega)
    · rfl

theorem unary_deeper : ∀ depth ts, 4 * ts.length ≤ depth →
    unary table finish (depth + 1) ts = unary table finish depth ts
  | 0, ts, deep => by
    obtain rfl := List.length_eq_zero_iff.mp (by omega : ts.length = 0)
    rfl
  | depth + 1, [], _ => rfl
  | depth + 1, t :: ts, deep => by
    rw [List.length_cons] at deep
    unfold unary
    dsimp only
    rw [unary_deeper depth ts (by omega), disjunction_deeper depth ts (by omega)]

end

/-- Any depth from the one that is used on gives the same tree or the same rejection. -/
theorem disjunction_depthFor {ts : List Token} {depth : Nat} (deep : depthFor ts.length ≤ depth) :
    disjunction table finish depth ts = disjunction table finish (depthFor ts.length) ts := by
  obtain ⟨extra, rfl⟩ := Nat.exists_eq_add_of_le deep
  induction extra with
  | zero => rfl
  | succ extra ih =>
    have enough : 4 * ts.length + 2 ≤ depthFor ts.length + extra := by
      simp only [depthFor]
      omega
    exact (disjunction_deeper _ ts enough).trans (ih (Nat.le_add_right _ _))

end WideColumn.Filter
