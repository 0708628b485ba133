import WideColumn.Action

/-! What actions do to the state, whether they fail or not. An action obeys a relation if the state
that it leaves always stands in it to the one that it found; a reading action leaves what it
found, and one that keeps an observation leaves that alone. A relation may also tell by a list what
has happened in between: then an action leaves a trace, and the traces of the parts of a sequence
are joined. -/
namespace WideColumn.Action

variable {σ τ α β γ : Type} {relation : σ → σ → Prop} {a : Action σ α} {f : α → Action σ β}

def Obeys (relation : σ → σ → Prop) (a : Action σ α) : Prop := ∀ s, relation s (a s).2

/-- An action that changes nothing. -/
def Reads (a : Action σ α) : Prop := ∀ s, (a s).2 = s

namespace Reads

theorem pure (x : α) : Reads (Pure.pure x : Action σ α) := fun _ => rfl

theorem fail (e : Fault) : Reads (Action.fail e : Action σ α) := fun _ => rfl

theorem get : Reads (Action.get : Action σ σ) := fun _ => rfl

theorem ofExcept (outcome : Except Fault α) : Reads (Action.ofExcept outcome : Action σ α) := by
  cases outcome with
  | ok x => exact pure x
  | error e => exact fail e

theorem obeys (h : Reads a) (refl : ∀ s, relation s s) : Obeys relation a := by
  intro s
  rw [h s]
  exact refl s

end Reads

theorem ofExcept_eq (outcome : Except Fault α) (s : σ) : ofExcept outcome s = (outcome, s) := by
  cases outcome <;> rfl

/-- What a sequence comes to whose first part changes nothing. -/
theorem outcome_bind (first : Reads a) (s : σ) :
    ((a >>= f) s).1 = (a s).1 >>= fun x => (f x s).1 := by
  rcases run : a s with ⟨outcome, t⟩
  obtain rfl : t = s := by rw [← first s, run]
  cases outcome with
  | ok x => rw [bind_of_ok run]; rfl
  | error e => rw [bind_of_error run]; rfl

theorem outcome_ofExcept_bind {f : β → Action σ α} (outcome : Except Fault β) (s : σ) :
    ((ofExcept outcome >>= f) s).1 = outcome >>= fun x => (f x s).1 := by
  rw [outcome_bind (.ofExcept outcome), ofExcept_eq]

/-- A sequence that ends with a reading action leaves the state that its first part leaves. -/
theorem state_bind (next : ∀ x, Reads (f x)) (s : σ) : ((a >>= f) s).2 = (a s).2 := by
  rcases run : a s with ⟨outcome, t⟩
  cases outcome with
  | ok x => rw [bind_of_ok run, next x t]
  | error e => rw [bind_of_error run]

namespace Obeys

/-- A sequence that begins with a reading action. -/
theorem after_reading (refl : ∀ s, relation s s) (first : Reads a)
    (next : ∀ x, Obeys relation (f x)) : Obeys relation (a >>= f) := by
  intro s
  rcases run : a s with ⟨outcome, t⟩
  obtain rfl : t = s := by rw [← first s, run]
  cases outcome with
  | ok x =>
    rw [bind_of_ok run]
    exact next x t
  | error e =>
    rw [bind_of_error run]
    exact refl t

/-- A sequence that ends with a reading action. -/
theorem then_reading (first : Obeys relation a) (next : ∀ x, Reads (f x)) :
    Obeys relation (a >>= f) := by
  intro s
  rw [state_bind next]
  exact first s

/-- A relation between states that may stand apart. -/
structure IsOrder (relation : σ → σ → Prop) : Prop where
  refl : ∀ s, relation s s
  trans : ∀ {s t u}, relation s t → relation t u → relation s u

theorem bind (order : IsOrder relation) (first : Obeys relation a)
    (next : ∀ x, Obeys relation (f x)) : Obeys relation (a >>= f) := by
  intro s
  have before := first s
  rcases run : a s with ⟨outcome, t⟩
  rw [run] at before
  cases outcome with
  | ok x =>
    rw [bind_of_ok run]
    exact order.trans before (next x t)
  | error e =>
    rw [bind_of_error run]
    exact before

end Obeys

/-- A relation that tells by a list what has happened between two states. -/
structure IsTrace (relation : List τ → σ → σ → Prop) : Prop where
  refl : ∀ s, relation [] s s
  trans : ∀ {first second s t u}, relation first s t → relation second t u →
    relation (first ++ second) s u

/-- From a state, an action leaves a trace that meets a specification together with what the action
comes to. -/
def Leaves (relation : List τ → σ → σ → Prop) (s : σ) (a : Action σ α)
    (spec : Except Fault α × σ → List τ → Prop) : Prop :=
  ∃ trace, relation trace s (a s).2 ∧ spec (a s) trace

namespace Leaves

variable {relation : List τ → σ → σ → Prop} {s : σ} {spec : Except Fault α × σ → List τ → Prop}
  {goal : Except Fault β × σ → List τ → Prop}

theorem mono {weaker : Except Fault α × σ → List τ → Prop} (h : Leaves relation s a spec)
    (weakens : ∀ trace, relation trace s (a s).2 → spec (a s) trace → weaker (a s) trace) :
    Leaves relation s a weaker := by
  obtain ⟨trace, left, met⟩ := h
  exact ⟨trace, left, weakens trace left met⟩

/-- What does not change the state leaves no trace. -/
theorem of_reads (h : IsTrace relation) (reads : Reads a)
    (met : ∀ outcome, a s = (outcome, s) → spec (outcome, s) []) : Leaves relation s a spec := by
  have same : a s = ((a s).1, s) := Prod.ext rfl (reads s)
  refine ⟨[], ?_, ?_⟩
  · rw [reads s]
    exact h.refl s
  · rw [same]
    exact met _ same

/-- A sequence: its second part goes on from the state that the first one leaves. -/
theorem bind (h : IsTrace relation) (first : Leaves relation s a spec)
    (next : ∀ x trace t, relation trace s t → spec (.ok x, t) trace →
      Leaves relation t (f x) fun ran more => goal ran (trace ++ more))
    (failed : ∀ e trace t, relation trace s t → spec (.error e, t) trace →
      goal (.error e, t) trace) : Leaves relation s (a >>= f) goal := by
  obtain ⟨trace, left, met⟩ := first
  rcases run : a s with ⟨outcome, t⟩
  rw [run] at left met
  cases outcome with
  | ok x =>
    obtain ⟨more, later, reached⟩ := next x trace t left met
    have goesOn := bind_of_ok (f := f) run
    refine ⟨trace ++ more, ?_, ?_⟩
    · rw [goesOn]
      exact h.trans left later
    · rw [goesOn]
      exact reached
  | error e =>
    have stopped := bind_of_error (f := f) run
    refine ⟨trace, ?_, ?_⟩
    · rw [stopped]
      exact left
    · rw [stopped]
      exact failed e trace t left met

/-- A sequence that begins with an attempt, which may have failed but does not end it. -/
theorem bind_attempt {f : Except Fault α → Action σ β} (h : IsTrace relation)
    (first : Leaves relation s a spec)
    (next : ∀ outcome trace t, relation trace s t → spec (outcome, t) trace →
      Leaves relation t (f outcome) fun ran more => goal ran (trace ++ more)) :
    Leaves relation s (Action.attempt a >>= f) goal := by
  obtain ⟨trace, left, met⟩ := first
  obtain ⟨more, later, reached⟩ := next (a s).1 trace (a s).2 left met
  exact ⟨trace ++ more, h.trans left later, reached⟩

end Leaves

/-- An action that leaves an observation of the state as it is. -/
def Keeps (observe : σ → γ) (a : Action σ α) : Prop := ∀ s, observe (a s).2 = observe s

namespace Keeps

variable {observe : σ → γ}

theorem of_reads (h : Reads a) : Keeps observe a := fun s => congrArg observe (h s)

theorem pure (x : α) : Keeps observe (Pure.pure x : Action σ α) := of_reads (.pure x)

theorem fail (e : Fault) : Keeps observe (Action.fail e : Action σ α) := of_reads (.fail e)

theorem get : Keeps observe Action.get := of_reads .get

theorem ofExcept (outcome : Except Fault α) : Keeps observe (Action.ofExcept outcome) :=
  of_reads (.ofExcept outcome)

theorem modify {f : σ → σ} (kept : ∀ s, observe (f s) = observe s) :
    Keeps observe (Action.modify f) := kept

theorem bind (first : Keeps observe a) (next : ∀ x, Keeps observe (f x)) :
    Keeps observe (a >>= f) := by
  intro s
  have before := first s
  rcases run : a s with ⟨outcome, t⟩
  rw [run] at before
  cases outcome with
  | ok x => rw [bind_of_ok run, next x t, before]
  | error e => rw [bind_of_error run, before]

theorem attempt (h : Keeps observe a) : Keeps observe (Action.attempt a) := h

/-- An action on a part of the state, where what is observed is in that part. -/
theorem onPart {part : τ → σ} {put : σ → τ → τ} {whole : τ → γ}
    (inPart : ∀ t, whole t = observe (part t)) (afterwards : ∀ x t, whole (put x t) = observe x)
    (h : Keeps observe a) : Keeps whole (Action.onPart part put a) := by
  intro t
  rw [inPart t, ← h (part t)]
  exact afterwards _ t

end Keeps

/-- An action that does on a part of its state what another one does on that part alone. -/
def Mirrors (project : σ → τ) (a : Action σ α) (b : Action τ α) : Prop :=
  ∀ s, b (project s) = ((a s).1, project (a s).2)

namespace Mirrors

variable {project : σ → τ} {b : Action τ α} {g : α → Action τ β}

theorem pure (x : α) : Mirrors project (Pure.pure x) (Pure.pure x) := fun _ => rfl

theorem get_bind {f : σ → Action σ α} {g : τ → Action τ α}
    (next : ∀ s, Mirrors project (f s) (g (project s))) :
    Mirrors project (Action.get >>= f) (Action.get >>= g) := fun s => next s s

theorem ofExcept (outcome : Except Fault α) :
    Mirrors project (Action.ofExcept outcome) (Action.ofExcept outcome) := by
  cases outcome with
  | ok x => exact pure x
  | error e => exact fun _ => rfl

theorem bind (first : Mirrors project a b) (next : ∀ x, Mirrors project (f x) (g x)) :
    Mirrors project (a >>= f) (b >>= g) := by
  intro s
  have same := first s
  rcases ran : a s with ⟨e | x, t⟩
  · rw [ran] at same
    rw [bind_of_error same, bind_of_error ran]
  · rw [ran] at same
    rw [bind_of_ok same, bind_of_ok ran]
    exact next x t

theorem attempt (h : Mirrors project a b) :
    Mirrors project (Action.attempt a) (Action.attempt b) := by
  intro s
  unfold Action.attempt
  rw [h s]

end Mirrors

theorem Reads.bind (first : Reads a) (next : ∀ x, Reads (f x)) : Reads (a >>= f) := by
  have obeyed : Obeys (fun s t => t = s) (a >>= f) :=
    .after_reading (fun _ => rfl) first fun x => next x
  exact obeyed

theorem ofExcept_eq_ok_iff {outcome : Except Fault α} {s t : σ} {x : α} :
    ofExcept outcome s = (.ok x, t) ↔ outcome = .ok x ∧ t = s := by
  constructor
  · intro h
    cases outcome with
    | ok y =>
      cases h
      exact ⟨rfl, rfl⟩
    | error e => cases h
  · rintro ⟨rfl, rfl⟩
    rfl

end WideColumn.Action
