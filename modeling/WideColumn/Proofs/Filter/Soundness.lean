import WideColumn.Proofs.Filter.Grammar

/-! Soundness of the parser: what is read is a phrase, and the rest is left untouched. -/
namespace WideColumn.Filter.Grammar

variable {table : Table} {finish : Nat}

theorem moreArguments_stop {t : Token} (other : t.kind ≠ .comma) (ts : List Token) :
    moreArguments finish (t :: ts) = .ok ([], t :: ts) := by
  cases ts <;> simp [moreArguments, other]

theorem moreArguments_sound {ts args rest : List Token}
    (read : moreArguments finish ts = .ok (args, rest)) :
    ∃ used, ts = used ++ rest ∧ ArgumentTail used args := by
  induction ts using moreArguments.induct generalizing args with
  | case1 =>
    cases read
    exact ⟨[], rfl, .nil⟩
  | case2 comma separator a following argument ih =>
    simp only [moreArguments, separator, argument, if_true] at read
    obtain ⟨⟨more, left⟩, inner, same⟩ := map_eq_ok_iff.mp read
    cases same
    obtain ⟨used, rfl, tail⟩ := ih inner
    exact ⟨comma :: a :: used, rfl, .cons separator (argument_iff.mp argument) tail⟩
  | case3 comma separator a following refused =>
    simp [moreArguments, separator, refused, reject] at read
  | case4 comma separator => simp [moreArguments, separator, reject] at read
  | case5 t ts other =>
    rw [moreArguments_stop other] at read
    cases read
    exact ⟨[], rfl, .nil⟩

theorem arguments_sound {ts args rest : List Token}
    (read : arguments finish ts = .ok (args, rest)) :
    ∃ used, ts = used ++ rest ∧ Arguments used args := by
  unfold arguments at read
  split at read
  · cases read
    exact ⟨[], rfl, .none⟩
  · obtain ⟨⟨first, following⟩, head, read⟩ := bind_eq_ok_iff.mp read
    obtain ⟨⟨more, left⟩, others, read⟩ := bind_eq_ok_iff.mp read
    cases read
    unfold argument at head
    split at head
    · split at head
      · next argument =>
        cases head
        obtain ⟨used, rfl, tail⟩ := moreArguments_sound others
        exact ⟨_ :: used, rfl, .some (argument_iff.mp argument) tail⟩
      · cases head
    · cases head

theorem expect_eq_ok {kind : TokenKind} {what : String} {ts rest : List Token}
    (read : expect kind what finish ts = .ok rest) : ∃ t, ts = t :: rest ∧ t.kind = kind := by
  unfold expect at read
  split at read
  · split at read
    · next same =>
      cases read
      exact ⟨_, rfl, same⟩
    · cases read
  · cases read

theorem call_sound {name : Token} {ts rest : List Token} {n : Node} (word : name.kind = .name)
    (read : call table finish name ts = .ok (n, rest)) :
    ∃ used, name :: ts = used ++ rest ∧ Call table used n := by
  unfold call at read
  dsimp only at read
  split at read
  · cases read
  · next free =>
    split at read
    · cases read
    · next signatures known =>
      obtain ⟨inside, opens, read⟩ := bind_eq_ok_iff.mp read
      obtain ⟨⟨raw, behind⟩, list, read⟩ := bind_eq_ok_iff.mp read
      obtain ⟨left, closes, read⟩ := bind_eq_ok_iff.mp read
      obtain ⟨args, bound, read⟩ := bind_eq_ok_iff.mp read
      cases read
      obtain ⟨opening, rfl, isOpening⟩ := expect_eq_ok opens
      obtain ⟨used, rfl, spelled⟩ := arguments_sound list
      obtain ⟨closing, rfl, isClosing⟩ := expect_eq_ok closes
      refine ⟨name :: opening :: used ++ [closing], by simp, ?_⟩
      refine .intro word ?_ known isOpening spelled isClosing ?_
      · simpa [keywords] using free
      · exact (bindArguments_eq_ok_iff spelled.isArgument).mp bound

/-- Whatever the parser reads, it takes a phrase off the front of the tokens. -/
def Reads {α : Type} (phrase : List Token → α → Prop)
    (parser : List Token → Except Failure (α × List Token)) : Prop :=
  ∀ ⦃ts rest : List Token⦄ ⦃a : α⦄, parser ts = .ok (a, rest) →
    ∃ used, ts = used ++ rest ∧ phrase used a

/-- Two readers after each other read two phrases after each other. -/
theorem Reads.sequence {α β γ : Type} {phrase : List Token → α → Prop}
    {phrases : List Token → β → Prop} {p : List Token → Except Failure (α × List Token)}
    {q : List Token → Except Failure (β × List Token)} {f : α → β → γ} {ts rest : List Token}
    {c : γ}
    (first : Reads phrase p) (second : Reads phrases q)
    (read : (do
      let (a, ts) ← p ts
      let (b, ts) ← q ts
      return (f a b, ts)) = Except.ok (c, rest)) :
    ∃ used used' a b, ts = used ++ used' ++ rest ∧ phrase used a ∧ phrases used' b ∧ f a b = c := by
  obtain ⟨⟨a, following⟩, head, read⟩ := bind_eq_ok_iff.mp read
  obtain ⟨⟨b, left⟩, others, read⟩ := bind_eq_ok_iff.mp read
  cases read
  obtain ⟨used, same, front⟩ := first head
  obtain ⟨used', rfl, back⟩ := second others
  exact ⟨used, used', a, b, by simpa using same, front, back, rfl⟩

mutual

theorem disjunction_sound : ∀ depth, Reads (Expression table) (disjunction table finish depth)
  | 0 => by intro ts rest n read; cases read
  | depth + 1 => by
    intro ts rest n read
    simp only [disjunction] at read
    obtain ⟨used, used', first, more, rfl, head, tail, rfl⟩ :=
      (conjunction_sound depth).sequence (moreDisjuncts_sound depth) read
    refine ⟨used ++ used', rfl, ?_⟩
    cases more with
    | nil =>
      cases tail
      simpa [combine] using Expression.single head
    | cons next more => exact .chain head tail (by simp)

theorem moreDisjuncts_sound : ∀ depth, Reads (Disjuncts table) (moreDisjuncts table finish depth)
  | 0 => by
    intro ts rest ns read
    cases read
    exact ⟨[], rfl, .nil⟩
  | depth + 1 => by
    intro ts rest ns read
    simp only [moreDisjuncts] at read
    split at read
    · next starts =>
      cases ts with
      | nil => cases starts
      | cons word ts =>
        obtain ⟨used, used', n, more, same, head, tail, rfl⟩ :=
          (conjunction_sound depth).sequence (moreDisjuncts_sound depth) read
        rw [List.tail_cons] at same
        exact ⟨word :: used ++ used', by simp [same], .cons starts head tail⟩
    · cases read
      exact ⟨[], rfl, .nil⟩

theorem conjunction_sound : ∀ depth, Reads (Conjunction table) (conjunction table finish depth)
  | 0 => by intro ts rest n read; cases read
  | depth + 1 => by
    intro ts rest n read
    simp only [conjunction] at read
    obtain ⟨used, used', first, more, rfl, head, tail, rfl⟩ :=
      (unary_sound depth).sequence (moreConjuncts_sound depth) read
    refine ⟨used ++ used', rfl, ?_⟩
    cases more with
    | nil =>
      cases tail
      simpa [combine] using Conjunction.single head
    | cons next more => exact .chain head tail (by simp)

theorem moreConjuncts_sound : ∀ depth, Reads (Conjuncts table) (moreConjuncts table finish depth)
  | 0 => by
    intro ts rest ns read
    cases read
    exact ⟨[], rfl, .nil⟩
  | depth + 1 => by
    intro ts rest ns read
    simp only [moreConjuncts] at read
    split at read
    · next starts =>
      cases ts with
      | nil => cases starts
      | cons word ts =>
        obtain ⟨used, used', n, more, same, head, tail, rfl⟩ :=
          (unary_sound depth).sequence (moreConjuncts_sound depth) read
        rw [List.tail_cons] at same
        exact ⟨word :: used ++ used', by simp [same], .cons starts head tail⟩
    · cases read
      exact ⟨[], rfl, .nil⟩

theorem unary_sound : ∀ depth, Reads (Unary table) (unary table finish depth)
  | 0 => by intro ts rest n read; cases read
  | depth + 1 => by
    intro ts rest n read
    simp only [unary] at read
    cases ts with
    | nil => cases read
    | cons t ts =>
      dsimp only at read
      split at read
      · next operator =>
        obtain ⟨⟨child, left⟩, inner, same⟩ := map_eq_ok_iff.mp read
        cases same
        obtain ⟨used, rfl, operand⟩ := unary_sound depth inner
        refine ⟨t :: used, rfl, ?_⟩
        rcases (Bool.or_eq_true _ _).mp operator with skip | while'
        · rw [(isWord_iff.mp skip).2]
          exact .skip skip operand
        · rw [(isWord_iff.mp while').2]
          exact .while while' operand
      · split at read
        · next opens =>
          obtain ⟨⟨child, following⟩, inner, read⟩ := bind_eq_ok_iff.mp read
          obtain ⟨left, closed, read⟩ := bind_eq_ok_iff.mp read
          cases read
          obtain ⟨closing, same, closes⟩ := expect_eq_ok closed
          change following = closing :: rest at same
          subst same
          obtain ⟨used, rfl, inside⟩ := disjunction_sound depth inner
          exact ⟨t :: used ++ [closing], by simp, .group opens inside closes⟩
        · next word =>
          obtain ⟨used, same, leaf⟩ := call_sound word read
          exact ⟨used, same, .call leaf⟩
        · cases read

end

end WideColumn.Filter.Grammar
