import WideColumn.Filter.Parser
import WideColumn.Proofs.Except

/-! Which arguments a signature takes, said without the functions that bind them. Binding finds
exactly the first signature that takes the arguments of a leaf, and gives up early only at a
signature whose last kind is the empty text. -/
namespace WideColumn.Filter

/-- Evaluation ended with a rejection, and with no other failure. -/
def Rejected {α : Type} (outcome : Except Failure α) : Prop :=
  ∃ rejection, outcome = .error (.rejected rejection)

@[simp] theorem rejected_reject {α : Type} (reason : Reason) (position : Nat) :
    Rejected (reject reason position : Except Failure α) := ⟨⟨reason, position⟩, rfl⟩

/-- Evaluation ended with a result or with a rejection. -/
def Settled {α : Type} (outcome : Except Failure α) : Prop :=
  (∃ a, outcome = .ok a) ∨ Rejected outcome

@[simp] theorem settled_ok {α : Type} (a : α) : Settled (.ok a) := .inl ⟨a, rfl⟩

@[simp] theorem settled_reject {α : Type} (reason : Reason) (position : Nat) :
    Settled (reject reason position : Except Failure α) := .inr (rejected_reject reason position)

theorem Settled.bind {α β : Type} {first : Except Failure α} {next : α → Except Failure β}
    (h : Settled first) (goOn : ∀ a, first = .ok a → Settled (next a)) :
    Settled (first >>= next) := by
  rcases h with ⟨a, rfl⟩ | ⟨rejection, rfl⟩
  · exact goOn a rfl
  · exact .inr ⟨rejection, rfl⟩

theorem Settled.map {α β : Type} {outcome : Except Failure α} (h : Settled outcome) (f : α → β) :
    Settled (outcome.map f) := by
  rcases h with ⟨a, rfl⟩ | ⟨rejection, rfl⟩
  · exact settled_ok (f a)
  · exact .inr ⟨rejection, rfl⟩

/-- A text `type:value` spells a comparator. The type is the part before the first colon, in any
case, and a pattern needs a test for equality as the argument before it. -/
inductive SpellsComparator (previous : Option Arg) : List Char → Comparator → Prop
  | intro {type value : List Char} {kind : ComparatorKind} (first : ':' ∉ type)
      (known : ComparatorKind.ofName? (lowerCase type) = some kind)
      (tested : kind.isPattern = true →
        previous = some (.op .equal) ∨ previous = some (.op .notEqual)) :
      SpellsComparator previous (type ++ ':' :: value) ⟨kind, Utf8.encode value⟩

/-- A token spells an argument of a kind, after the argument `previous`. -/
inductive Fits (previous : Option Arg) : ArgKind → Token → Arg → Prop
  | text {t : Token} {value : List Char} (literal : t.kind = .string value) :
      Fits previous .text t (.text (Utf8.encode value))
  | number {t : Token} {value : Int} (literal : t.kind = .number value) (natural : 0 ≤ value) :
      Fits previous .number t (.number value)
  | flag {t : Token} {value : Bool} (word : t.kind = .name) (truth : flag? t.text = some value) :
      Fits previous .flag t (.flag value)
  | op {t : Token} {value : CompareOp} (symbol : t.kind = .op value) :
      Fits previous .op t (.op value)
  | comparator {t : Token} {value : List Char} {c : Comparator} (literal : t.kind = .string value)
      (spelled : SpellsComparator previous value c) : Fits previous .comparator t (.comparator c)

/-- Tokens spell arguments of these kinds, one each. -/
inductive Binds : Option Arg → List ArgKind → List Token → List Arg → Prop
  | nil {previous : Option Arg} : Binds previous [] [] []
  | cons {previous : Option Arg} {kind : ArgKind} {kinds : List ArgKind} {t : Token}
      {ts : List Token} {arg : Arg} {args : List Arg} (fits : Fits previous kind t arg)
      (rest : Binds (some arg) kinds ts args) :
      Binds previous (kind :: kinds) (t :: ts) (arg :: args)

namespace Signature

/-- The rows of kinds that a signature stands for. A repeated kind stands at the end any number of
times, or at least once. -/
inductive Allows (s : Signature) : List ArgKind → Prop
  | exact (alone : s.rest = none) : Allows s s.fixed
  | repeated {r : Repetition} (n : Nat) (repeats : s.rest = some r)
      (enough : r.atLeastOnce = true → 1 ≤ n) : Allows s (s.fixed ++ List.replicate n r.kind)

/-- Tokens match a signature, as these arguments. -/
def Matches (s : Signature) (ts : List Token) (args : List Arg) : Prop :=
  ∃ kinds, s.Allows kinds ∧ Binds none kinds ts args

/-- No arguments match a signature, and that can be told: its last kind has a name. -/
def Refuses (s : Signature) (ts : List Token) : Prop :=
  s.endsNameless = false ∧ ¬ ∃ args, s.Matches ts args

end Signature

/-- The first signature that tokens match takes them as these arguments. -/
inductive FirstMatch : List Signature → List Token → List Arg → Prop
  | here {s : Signature} {signatures : List Signature} {ts : List Token} {args : List Arg}
      (taken : s.Matches ts args) : FirstMatch (s :: signatures) ts args
  | later {s : Signature} {signatures : List Signature} {ts : List Token} {args : List Arg}
      (refused : s.Refuses ts) (rest : FirstMatch signatures ts args) :
      FirstMatch (s :: signatures) ts args

theorem splitColon_append {type : List Char} (first : ':' ∉ type) (value : List Char) :
    splitColon (type ++ ':' :: value) = some (type, value) := by
  induction type with
  | nil => rfl
  | cons c rest ih =>
    simp only [List.mem_cons, not_or] at first
    simp [splitColon, Ne.symm first.1, ih first.2]

theorem splitColon_eq_some {cs type value : List Char} (h : splitColon cs = some (type, value)) :
    cs = type ++ ':' :: value ∧ ':' ∉ type := by
  induction cs generalizing type with
  | nil => cases h
  | cons c rest ih =>
    simp only [splitColon] at h
    split at h
    · next colon =>
      cases h
      simp [colon]
    · next other =>
      obtain ⟨⟨before, after⟩, split, same⟩ := Option.map_eq_some_iff.mp h
      cases same
      obtain ⟨rfl, first⟩ := ih split
      exact ⟨rfl, by simp [Ne.symm other, first]⟩

theorem comparator_eq_ok_iff {position : Nat} {cs : List Char} {previous : Option Arg}
    {c : Comparator} :
    comparator position cs previous = .ok c ↔ SpellsComparator previous cs c := by
  constructor
  · intro h
    unfold comparator at h
    split at h
    · cases h
    · next type value parts =>
      split at h
      · cases h
      · next kind known =>
        split at h
        · cases h
        · next allowed =>
          cases h
          obtain ⟨rfl, first⟩ := splitColon_eq_some parts
          refine .intro first known fun pattern => ?_
          simp only [pattern, Bool.true_and, Bool.and_eq_true, bne_iff_ne, ne_eq] at allowed
          exact Decidable.or_iff_not_not_and_not.mpr allowed
  · rintro ⟨first, known, tested⟩
    simp only [comparator, splitColon_append first, known]
    split
    · next refused =>
      simp only [Bool.and_eq_true, bne_iff_ne] at refused
      obtain ⟨⟨pattern, notEqual⟩, notDifferent⟩ := refused
      exact absurd (tested pattern) (by simp [notEqual, notDifferent])
    · rfl

theorem comparator_settled (position : Nat) (cs : List Char) (previous : Option Arg) :
    Settled (comparator position cs previous) := by
  unfold comparator
  repeat' split
  all_goals simp

/-- Only tokens that the parser takes for arguments are converted, so a name is a truth value. -/
theorem convert_eq_ok_iff {kind : ArgKind} {t : Token} {previous : Option Arg} {arg : Arg}
    (argument : t.isArgument = true) :
    convert kind t previous = .ok arg ↔ Fits previous kind t arg := by
  constructor
  · intro h
    unfold convert at h
    split at h
    · next value literal =>
      cases h
      exact .text literal
    · next value literal =>
      split at h
      · cases h
      · next natural =>
        cases h
        exact .number literal (Int.not_lt.mp natural)
    · next word =>
      cases h
      simp only [Token.isArgument, word] at argument
      obtain ⟨value, truth⟩ := Option.isSome_iff_exists.mp argument
      simpa only [truth, Option.some.injEq, Bool.decide_eq_true] using
        (Fits.flag word truth : Fits previous .flag t (.flag value))
    · next op symbol =>
      cases h
      exact .op symbol
    · next value literal =>
      obtain ⟨c, spelled, same⟩ := map_eq_ok_iff.mp h
      cases same
      exact .comparator literal (comparator_eq_ok_iff.mp spelled)
    · cases h
  · intro h
    cases h with
    | text literal => simp [convert, literal]
    | number literal natural => simp [convert, literal, Int.not_lt.mpr natural]
    | flag word truth => simp [convert, word, truth]
    | op symbol => simp [convert, symbol]
    | comparator literal spelled =>
      simp [convert, literal, comparator_eq_ok_iff.mpr spelled, Except.map]

theorem convert_settled (kind : ArgKind) (t : Token) (previous : Option Arg) :
    Settled (convert kind t previous) := by
  unfold convert
  split
  · simp
  · split <;> simp
  · simp
  · simp
  · exact (comparator_settled ..).map _
  · simp

/-- Both are induction over the kinds; the lengths agree because the signature has counted. -/
theorem convertAll_eq_ok_iff {previous : Option Arg} {kinds : List ArgKind} {ts : List Token}
    {args : List Arg} (count : kinds.length = ts.length)
    (argument : ∀ t ∈ ts, t.isArgument = true) :
    convertAll previous kinds ts = .ok args ↔ Binds previous kinds ts args := by
  induction kinds generalizing previous ts args with
  | nil =>
    obtain rfl := List.length_eq_zero_iff.mp count.symm
    constructor
    · intro h
      cases h
      exact .nil
    · intro h
      cases h
      rfl
  | cons kind kinds ih =>
    obtain ⟨t, ts, rfl⟩ := List.exists_cons_of_length_eq_add_one count.symm
    have rest : ∀ {previous args}, convertAll previous kinds ts = .ok args ↔
        Binds previous kinds ts args :=
      ih (Nat.succ.inj count) fun t member => argument t (by simp [member])
    have head := argument t (by simp)
    simp only [convertAll, bind_eq_ok_iff]
    constructor
    · rintro ⟨arg, converted, more, others, same⟩
      cases same
      exact .cons ((convert_eq_ok_iff head).mp converted) (rest.mp others)
    · intro h
      cases h with
      | cons fits others =>
        exact ⟨_, (convert_eq_ok_iff head).mpr fits, _, rest.mpr others, rfl⟩

theorem convertAll_settled (previous : Option Arg) (kinds : List ArgKind) (ts : List Token) :
    Settled (convertAll previous kinds ts) := by
  induction kinds generalizing previous ts with
  | nil => simp [convertAll]
  | cons kind kinds ih =>
    cases ts with
    | nil => simp [convertAll]
    | cons t ts =>
      refine (convert_settled kind t previous).bind fun arg _ => ?_
      exact (ih (some arg) ts).bind fun more _ => settled_ok _

theorem Binds.length_eq {previous : Option Arg} {kinds : List ArgKind} {ts : List Token}
    {args : List Arg} (h : Binds previous kinds ts args) : kinds.length = ts.length := by
  induction h with
  | nil => rfl
  | cons _ _ ih => simp [ih]

namespace Signature

variable {s : Signature} {ts : List Token} {args : List Arg}

/-- A kind without a name fits no token, so a signature that ends in one takes no arguments. -/
theorem Matches.named (h : s.Matches ts args) : s.endsNameless = false := by
  obtain ⟨kinds, allowed, bound⟩ := h
  cases allowed with
  | repeated n repeats => simp [endsNameless, repeats]
  | exact alone =>
    -- The last kind is reached through the binding, which fits a token to every kind before it.
    have unfit : ∀ kinds previous ts args, Binds previous kinds ts args →
        kinds.getLast? ≠ some (.other "") := by
      intro kinds previous ts args bound
      induction bound with
      | nil => simp
      | @cons _ kind kinds _ _ _ _ fits _ ih =>
        cases kinds with
        | nil => cases fits <;> simp
        | cons next kinds => simpa using ih
    simp [endsNameless, alone, unfit _ _ _ _ bound]

theorem bind_eq_ok_iff (argument : ∀ t ∈ ts, t.isArgument = true) :
    s.bind ts = .ok args ↔ s.Matches ts args := by
  unfold bind
  split
  · next r repeats =>
    constructor
    · intro h
      by_cases few : ts.length < s.fixed.length + (if r.atLeastOnce then 1 else 0)
      · simp only [few, if_true] at h
        cases h
      · simp only [few, if_false] at h
        refine ⟨_, .repeated _ repeats ?_, (convertAll_eq_ok_iff ?_ argument).mp h⟩
        · intro once
          simp only [once, if_true] at few
          omega
        · simp only [List.length_append, List.length_replicate]
          omega
    · rintro ⟨kinds, allowed, bound⟩
      cases allowed with
      | exact alone => simp [repeats] at alone
      | repeated n repeats' enough =>
        obtain rfl := Option.some.inj (repeats.symm.trans repeats')
        have count := bound.length_eq
        have size : ts.length = s.fixed.length + n := by simpa using count.symm
        have many : ¬ ts.length < s.fixed.length + (if r.atLeastOnce then 1 else 0) := by
          split
          · next once => have := enough once; omega
          · omega
        have left : ts.length - s.fixed.length = n := by omega
        simp only [many, if_false, left]
        exact (convertAll_eq_ok_iff count argument).mpr bound
  · next alone =>
    constructor
    · intro h
      split at h
      · cases h
      · split at h
        · cases h
        · next count =>
          exact ⟨_, .exact alone, (convertAll_eq_ok_iff (Decidable.not_not.mp count) argument).mp h⟩
    · intro h
      have named := h.named
      obtain ⟨kinds, allowed, bound⟩ := h
      cases allowed with
      | repeated n repeats => simp [alone] at repeats
      | exact _ =>
        simp only [named, Bool.false_eq_true, if_false, bound.length_eq, ne_eq, not_true_eq_false]
        exact (convertAll_eq_ok_iff bound.length_eq argument).mpr bound

theorem bind_settled (named : s.endsNameless = false) (ts : List Token) : Settled (s.bind ts) := by
  unfold bind
  split
  · next r _ =>
    by_cases few : ts.length < s.fixed.length + (if r.atLeastOnce then 1 else 0)
    · simp only [few, if_true, settled_reject]
    · simp only [few, if_false]
      exact convertAll_settled ..
  · simp only [named, Bool.false_eq_true, if_false]
    split
    · simp
    · exact convertAll_settled ..

theorem bind_nameless (nameless : s.endsNameless = true) (ts : List Token) :
    s.bind ts = .error .namelessKind := by
  have alone : s.rest = none := by
    simp only [endsNameless, Bool.and_eq_true, Option.isNone_iff_eq_none] at nameless
    exact nameless.1
  simp [bind, alone, nameless]

theorem rejected_bind_iff (argument : ∀ t ∈ ts, t.isArgument = true) :
    Rejected (s.bind ts) ↔ s.Refuses ts := by
  cases named : s.endsNameless with
  | true => simp [bind_nameless named, Refuses, named, Rejected]
  | false =>
    simp only [Refuses, named, true_and, ← bind_eq_ok_iff argument]
    constructor
    · rintro ⟨rejection, refused⟩ ⟨args, bound⟩
      rw [refused] at bound
      cases bound
    · intro none
      exact (bind_settled named ts).resolve_left none

end Signature

theorem bindFirst_eq_ok_iff {signatures : List Signature} {ts : List Token} {args : List Arg}
    (argument : ∀ t ∈ ts, t.isArgument = true) :
    bindFirst signatures ts = .ok (some args) ↔ FirstMatch signatures ts args := by
  induction signatures with
  | nil =>
    constructor
    · intro h; cases h
    · intro h; cases h
  | cons s signatures ih =>
    constructor
    · intro h
      unfold bindFirst at h
      split at h
      · next taken =>
        cases h
        exact .here ((Signature.bind_eq_ok_iff argument).mp taken)
      · next rejection refused =>
        exact .later ((Signature.rejected_bind_iff argument).mp ⟨rejection, refused⟩) (ih.mp h)
      · cases h
    · intro h
      cases h with
      | here taken => simp [bindFirst, (Signature.bind_eq_ok_iff argument).mpr taken]
      | later refused rest =>
        obtain ⟨rejection, refused⟩ := (Signature.rejected_bind_iff argument).mpr refused
        simp [bindFirst, refused, ih.mpr rest]

/-- A leaf's arguments are those that the first matching signature takes them as. With one
signature the complaint differs, not what is taken. -/
theorem bindArguments_eq_ok_iff {signatures : List Signature} {name : Token} {ts : List Token}
    {args : List Arg} (argument : ∀ t ∈ ts, t.isArgument = true) :
    bindArguments signatures name ts = .ok args ↔ FirstMatch signatures ts args := by
  rw [← bindFirst_eq_ok_iff argument]
  unfold bindArguments
  split
  · next s =>
    unfold bindFirst
    cases s.bind ts with
    | ok args => simp
    | error e => cases e <;> simp [bindFirst]
  · cases bindFirst signatures ts with
    | error e => simp
    | ok found => cases found <;> simp [reject]

/-- Among signatures none of which ends in the empty text, the search comes to an end. -/
theorem bindFirst_outcome {signatures : List Signature}
    (named : ∀ s ∈ signatures, s.endsNameless = false) (ts : List Token) :
    ∃ found, bindFirst signatures ts = .ok found := by
  induction signatures with
  | nil => exact ⟨none, rfl⟩
  | cons s signatures ih =>
    have rest := ih fun s member => named s (by simp [member])
    unfold bindFirst
    rcases s.bind_settled (named s (by simp)) ts with ⟨args, taken⟩ | ⟨rejection, refused⟩
    · simp [taken]
    · simpa only [refused] using rest

theorem bindArguments_settled {signatures : List Signature}
    (named : ∀ s ∈ signatures, s.endsNameless = false) (name : Token) (ts : List Token) :
    Settled (bindArguments signatures name ts) := by
  unfold bindArguments
  split
  · next s => exact s.bind_settled (named s (by simp)) ts
  · obtain ⟨found, same⟩ := bindFirst_outcome named ts
    rw [same]
    cases found <;> simp

end WideColumn.Filter
