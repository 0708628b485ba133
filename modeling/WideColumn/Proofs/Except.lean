import Mathlib.Data.List.Forall2

/-! Evaluations that end with a result. -/
namespace WideColumn

variable {ε α β : Type}

theorem bind_eq_ok_iff {first : Except ε α} {next : α → Except ε β} {b : β} :
    (first >>= next) = .ok b ↔ ∃ a, first = .ok a ∧ next a = .ok b := by
  cases first with
  | error e => simp [bind, Except.bind]
  | ok a => simp [bind, Except.bind]

theorem map_eq_ok_iff {outcome : Except ε α} {f : α → β} {b : β} :
    outcome.map f = .ok b ↔ ∃ a, outcome = .ok a ∧ f a = b := by
  cases outcome with
  | error e => simp [Except.map]
  | ok a => simp [Except.map]

theorem exists_map_iff {outcome : Except ε α} {f : α → β} :
    (∃ b, outcome.map f = .ok b) ↔ ∃ a, outcome = .ok a := by
  cases outcome with
  | error e => simp [Except.map]
  | ok a => simp [Except.map]

theorem map_eq_error_iff {outcome : Except ε α} {f : α → β} {e : ε} :
    outcome.map f = .error e ↔ outcome = .error e := by
  cases outcome with
  | error e => simp [Except.map]
  | ok a => simp [Except.map]

theorem mapError_eq_ok_iff {ζ : Type} {outcome : Except ε α} {f : ε → ζ} {a : α} :
    outcome.mapError f = .ok a ↔ outcome = .ok a := by
  cases outcome with
  | error e => simp [Except.mapError]
  | ok b => simp [Except.mapError]

theorem toOption_eq_some {outcome : Except ε α} {a : α} (h : outcome.toOption = some a) :
    outcome = .ok a := by
  cases outcome with
  | error e => cases h
  | ok b => exact congrArg Except.ok (Option.some.inj h)

theorem eq_of_toOption {σ : Type} {ran : Except ε α × σ} {a : α} (h : ran.1.toOption = some a) :
    ran = (.ok a, ran.2) := Prod.ext (toOption_eq_some h) rfl

/-- Evaluating a list gives one result for each of its elements. -/
theorem forall₂_of_mapM {f : α → Except ε β} {as : List α} {bs : List β} (h : as.mapM f = .ok bs) :
    List.Forall₂ (fun a b => f a = .ok b) as bs := by
  induction as generalizing bs with
  | nil =>
    cases h
    exact .nil
  | cons a as ih =>
    rw [List.mapM_cons] at h
    obtain ⟨b, head, h⟩ := bind_eq_ok_iff.mp h
    obtain ⟨rest, tail, h⟩ := bind_eq_ok_iff.mp h
    cases h
    exact .cons head (ih tail)

theorem mapM_of_forall₂ {f : α → Except ε β} {as : List α} {bs : List β}
    (h : List.Forall₂ (fun a b => f a = .ok b) as bs) : as.mapM f = .ok bs := by
  induction h with
  | nil => rfl
  | cons head _ ih =>
    rw [List.mapM_cons]
    exact bind_eq_ok_iff.mpr ⟨_, head, bind_eq_ok_iff.mpr ⟨_, ih, rfl⟩⟩

theorem toOption_join_eq_some {outcome : Except ε (Option α)} {a : α} :
    outcome.toOption.join = some a ↔ outcome = .ok (some a) := by
  cases outcome with
  | error e => simp [Except.toOption]
  | ok a? => cases a? <;> simp [Except.toOption]

/-- Selecting from a list needs a result for each of its elements, and keeps those that there are. -/
theorem filterMapM_eq_ok_iff {f : α → Except ε (Option β)} {as : List α} {bs : List β} :
    as.filterMapM f = .ok bs ↔
      (∀ a ∈ as, ∃ b?, f a = .ok b?) ∧ as.filterMap (fun a => (f a).toOption.join) = bs := by
  induction as generalizing bs with
  | nil => simp [pure, Except.pure]
  | cons a as ih =>
    rw [List.filterMapM_cons, bind_eq_ok_iff, List.forall_mem_cons, List.filterMap_cons]
    cases here : f a with
    | error e => simp
    | ok b? =>
      cases b? with
      | none => simp [Except.toOption, ih]
      | some b =>
        constructor
        · rintro ⟨_, ⟨⟩, later⟩
          obtain ⟨rest, evaluated, ⟨⟩⟩ := bind_eq_ok_iff.mp later
          obtain ⟨each, rfl⟩ := ih.mp evaluated
          exact ⟨⟨⟨_, rfl⟩, each⟩, rfl⟩
        · rintro ⟨⟨-, each⟩, rfl⟩
          exact ⟨_, rfl, bind_eq_ok_iff.mpr ⟨_, ih.mpr ⟨each, rfl⟩, rfl⟩⟩

theorem exists_of_forall₂ {relation : α → β → Prop} {as : List α} {bs : List β}
    (h : List.Forall₂ relation as bs) {a : α} (member : a ∈ as) : ∃ b ∈ bs, relation a b := by
  induction h with
  | nil => cases member
  | cons related rest ih =>
    rcases List.mem_cons.mp member with rfl | later
    · exact ⟨_, .head _, related⟩
    · obtain ⟨b, isResult, related'⟩ := ih later
      exact ⟨b, .tail _ isResult, related'⟩

end WideColumn
