import WideColumn.Fault

/-!
Actions: computations on a state that may fail. What a failing action did to the state before it
failed stays done.
-/
namespace WideColumn

def Action (σ α : Type) : Type := σ → Except Fault α × σ

namespace Action

variable {σ τ α β : Type}

instance : Monad (Action σ) where
  pure a := fun s => (.ok a, s)
  bind a f := fun s =>
    match a s with
    | (.ok x, s) => f x s
    | (.error e, s) => (.error e, s)

theorem bind_of_ok {a : Action σ α} {f : α → Action σ β} {s t : σ} {x : α} (h : a s = (.ok x, t)) :
    (a >>= f) s = f x t := by
  show (match a s with | (.ok x, s) => f x s | (.error e, s) => (.error e, s)) = f x t
  rw [h]

theorem bind_of_error {a : Action σ α} {f : α → Action σ β} {s t : σ} {e : Fault}
    (h : a s = (.error e, t)) : (a >>= f) s = (.error e, t) := by
  show (match a s with | (.ok x, s) => f x s | (.error e, s) => (.error e, s)) = (.error e, t)
  rw [h]

/-- A sequence has a result when its first part has one and the second part goes on to it. -/
theorem bind_eq_ok_iff {a : Action σ α} {f : α → Action σ β} {s u : σ} {y : β} :
    (a >>= f) s = (.ok y, u) ↔ ∃ x t, a s = (.ok x, t) ∧ f x t = (.ok y, u) := by
  constructor
  · intro h
    rcases hr : a s with ⟨r, t⟩
    cases r with
    | ok x => exact ⟨x, t, rfl, (bind_of_ok hr).symm.trans h⟩
    | error e =>
      rw [bind_of_error hr] at h
      cases h
  · rintro ⟨x, t, hx, hy⟩
    exact (bind_of_ok hx).trans hy

def fail (e : Fault) : Action σ α := fun s => (.error e, s)

def get : Action σ σ := fun s => (.ok s, s)

theorem get_bind (f : σ → Action σ α) (s : σ) : (get >>= f) s = f s s := rfl

def modify (f : σ → σ) : Action σ Unit := fun s => (.ok (), f s)

def attempt (a : Action σ α) : Action σ (Except Fault α) := fun s => (.ok (a s).1, (a s).2)

def ofExcept : Except Fault α → Action σ α
  | .ok a => pure a
  | .error e => fail e

def onPart (part : σ → τ) (put : τ → σ → σ) (a : Action τ α) : Action σ α := fun s =>
  ((a (part s)).1, put (a (part s)).2 s)

end Action
end WideColumn
