import WideColumn.Proofs.Filter.Separation

/-! Lexemes, said without the scanner: the texts of each kind of token. What the scanner takes for a
token is a lexeme, and it reads at least as far as any lexeme goes. -/
namespace WideColumn.Filter

open Text (isBlank isDigit isLetter)

/-- Digits, with or without a minus sign in front. -/
inductive Numeral : List Char → Prop
  | unsigned {cs : List Char} (filled : cs ≠ []) (digits : ∀ c ∈ cs, isDigit c = true) : Numeral cs
  | negative {cs : List Char} (filled : cs ≠ []) (digits : ∀ c ∈ cs, isDigit c = true) :
      Numeral ('-' :: cs)

/-- What stands between the quotes of a string, and its value. A quote inside is one of a pair, and
each pair is one quote of the value. -/
inductive Paired : List Char → List Char → Prop
  | nil : Paired [] []
  | quotes {inside value : List Char} (more : Paired inside value) :
      Paired ('\'' :: '\'' :: inside) ('\'' :: value)
  | plain {c : Char} {inside value : List Char} (other : c ≠ '\'') (more : Paired inside value) :
      Paired (c :: inside) (c :: value)

inductive IsLexeme : TokenKind → List Char → Prop
  | leftParen : IsLexeme .leftParen ['(']
  | rightParen : IsLexeme .rightParen [')']
  | comma : IsLexeme .comma [',']
  | string {inside value : List Char} (paired : Paired inside value) :
      IsLexeme (.string value) ('\'' :: (inside ++ ['\'']))
  | number {cs : List Char} {value : Int} (numeral : Numeral cs)
      (read : Text.readInteger cs = .ok value) : IsLexeme (.number value) cs
  | name {cs : List Char} (word : Word cs) : IsLexeme .name cs
  | op (op : CompareOp) : IsLexeme (.op op) op.symbol

theorem paired_iff {inside value : List Char} :
    Paired inside value ↔ inside = quotedBody value := by
  constructor
  · intro paired
    induction paired with
    | nil => rfl
    | quotes _ ih => simp [quotedBody, ih]
    | plain other _ ih => simp [quotedBody, other, ih]
  · rintro rfl
    induction value with
    | nil => exact .nil
    | cons c value ih =>
      by_cases quote : c = '\''
      · simpa [quotedBody, quote] using Paired.quotes ih
      · simpa [quotedBody, quote] using Paired.plain quote ih

theorem Numeral.of_starts {c : Char} {body : List Char} (starts : StartsNumber c body)
    (run : ∀ d ∈ body, isDigit d = true) : Numeral (c :: body) := by
  rcases starts with digit | ⟨rfl, starts⟩
  · exact .unsigned (by simp) (List.forall_mem_cons.mpr ⟨digit, run⟩)
  · refine .negative ?_ run
    rintro rfl
    cases starts

theorem symbol_of_operator? {c : Char} {rest : List Char} {op : CompareOp} {n : Nat}
    (read : operator? c rest = some (op, n)) : op.symbol = c :: rest.take n := by
  unfold operator? at read
  split at read <;> cases read <;> rfl

/-- What the scanner takes for a token is a lexeme of its kind. -/
theorem isLexeme_of_lexeme {c : Char} {body after : List Char} {kind : TokenKind}
    (visible : isBlank c = false) (read : lexeme c (body ++ after) = .ok (kind, body.length)) :
    IsLexeme kind (c :: body) := by
  have spelled := lexeme_sound read
  generalize count : body.length = n at spelled
  cases spelled with
  | leftParen first =>
    obtain rfl := List.length_eq_zero_iff.mp count
    exact first ▸ .leftParen
  | rightParen first =>
    obtain rfl := List.length_eq_zero_iff.mp count
    exact first ▸ .rightParen
  | comma first =>
    obtain rfl := List.length_eq_zero_iff.mp count
    exact first ▸ .comma
  | @string value n first closed =>
    obtain ⟨left, same, rfl, -⟩ := stringBody_sound closed
    have cut : body ++ after = (quotedBody value ++ ['\'']) ++ left := by simpa using same
    obtain ⟨rfl, -⟩ := List.append_inj cut (by simpa using count)
    subst first
    exact .string (paired_iff.mpr rfl)
  | @number value first digits =>
    have run := takeWhile_front count.symm
    have inside : ∀ d ∈ body, isDigit d = true := by
      intro d member
      rw [← run] at member
      exact List.mem_takeWhile_imp member
    rw [run] at digits
    refine .number (.of_starts (first.imp_right fun ⟨minus, starts⟩ => ⟨minus, ?_⟩) inside) digits
    have some := takeWhile_isDigit_ne_nil starts
    rw [run] at some
    obtain ⟨d, body, rfl⟩ := List.exists_cons_of_ne_nil some
    exact inside d (.head _)
  | name first plain notDigit =>
    have run := takeWhile_front count.symm
    refine .name (.intro visible first plain notDigit fun d member => ?_)
    rw [← run] at member
    exact List.mem_takeWhile_imp member
  | @op value n symbol =>
    have symbol := symbol_of_operator? symbol
    rw [← count, List.take_left] at symbol
    exact symbol ▸ .op value

theorem Numeral.digits {c : Char} {body : List Char} (numeral : Numeral (c :: body)) :
    (∀ after, StartsNumber c (body ++ after)) ∧ ∀ d ∈ body, isDigit d = true := by
  cases numeral with
  | unsigned _ digits =>
    obtain ⟨digit, run⟩ := List.forall_mem_cons.mp digits
    exact ⟨fun _ => .inl digit, run⟩
  | negative filled digits =>
    obtain ⟨d, body, rfl⟩ := List.exists_cons_of_ne_nil filled
    exact ⟨fun _ => .inr ⟨rfl, digits d (.head _)⟩, digits⟩

theorem length_le_takeWhile {p : Char → Bool} {body : List Char} (run : ∀ d ∈ body, p d = true)
    (after : List Char) : body.length ≤ ((body ++ after).takeWhile p).length := by
  rw [List.takeWhile_append_of_pos run, List.length_append]
  exact Nat.le_add_right _ _

/-- The quote that closes a string is found no earlier than behind all the pairs. -/
theorem Paired.length_le {inside value after value' : List Char} {n : Nat}
    (paired : Paired inside value)
    (closed : stringBody (inside ++ '\'' :: after) = some (value', n)) : inside.length + 1 ≤ n := by
  induction paired generalizing value' n with
  | nil =>
    obtain ⟨rest, -, rfl, -⟩ := stringBody_sound closed
    exact Nat.succ_le_succ (Nat.zero_le _)
  | quotes _ ih =>
    simp only [List.cons_append, stringBody, Option.map_eq_some_iff] at closed
    obtain ⟨⟨inner, m⟩, read, same⟩ := closed
    cases same
    have := ih read
    simp only [List.length_cons]
    omega
  | @plain c inside value other _ ih =>
    have step : stringBody (c :: (inside ++ '\'' :: after)) =
        (stringBody (inside ++ '\'' :: after)).map fun r => (c :: r.1, r.2 + 1) := by
      simp [stringBody, other]
    rw [List.cons_append, step] at closed
    obtain ⟨⟨inner, m⟩, read, same⟩ := Option.map_eq_some_iff.mp closed
    cases same
    have := ih read
    simp only [List.length_cons]
    omega

/-- The scanner reads at least as far as any lexeme goes. -/
theorem IsLexeme.length_le {c : Char} {body after : List Char} {kind kind' : TokenKind} {n : Nat}
    (spelled : IsLexeme kind (c :: body)) (read : lexeme c (body ++ after) = .ok (kind', n)) :
    body.length ≤ n := by
  generalize same : c :: body = text at spelled
  cases spelled with
  | leftParen | rightParen | comma =>
    obtain ⟨-, rfl⟩ := List.cons.inj same
    exact Nat.zero_le _
  | @string inside value paired =>
    obtain ⟨rfl, rfl⟩ := List.cons.inj same
    have cut : inside ++ ['\''] ++ after = inside ++ '\'' :: after := by simp
    rw [cut] at read
    cases lexeme_sound read with
    | string _ closed => simpa using paired.length_le closed
    | number first => exact absurd (by decide) (StartsNumber.plain first).1
    | name _ plain => exact absurd (by decide) plain
    | op symbol => cases symbol
    | leftParen first | rightParen first | comma first => exact absurd first (by decide)
  | number numeral =>
    subst same
    obtain ⟨starts, run⟩ := numeral.digits
    rw [lexeme_number (starts after)] at read
    obtain ⟨value, -, same⟩ := map_eq_ok_iff.mp read
    cases same
    exact length_le_takeWhile run after
  | name word =>
    subst same
    cases (lexeme_name word (body ++ after)).symm.trans read
    cases word with
    | intro _ _ _ _ run => exact length_le_takeWhile run after
  | op op =>
    cases op with
    | less | equal | greater =>
      obtain ⟨-, rfl⟩ := List.cons.inj same
      exact Nat.zero_le _
    | lessOrEqual | notEqual | greaterOrEqual =>
      obtain ⟨rfl, rfl⟩ := List.cons.inj same
      cases (lexeme_operator rfl).2.symm.trans read
      exact le_rfl

theorem IsLexeme.read {c : Char} {body : List Char} {kind : TokenKind}
    (spelled : IsLexeme kind (c :: body)) :
    isBlank c = false ∧ lexeme c body = .ok (kind, body.length) := by
  have alone (p : Char → Bool) : Stops p [] := nofun
  generalize same : c :: body = text at spelled
  cases spelled with
  | leftParen | rightParen | comma =>
    obtain ⟨rfl, rfl⟩ := List.cons.inj same
    exact ⟨by decide +kernel, rfl⟩
  | @string inside value paired =>
    obtain ⟨rfl, rfl⟩ := List.cons.inj same
    obtain rfl := paired_iff.mp paired
    have closed := stringBody_quoted value (alone _)
    refine ⟨by decide +kernel, ?_⟩
    simp [lexeme, quotedBody, closed]
  | @number cs value numeral read =>
    subst same
    obtain ⟨starts, run⟩ := numeral.digits
    have starts : StartsNumber c body := by simpa using starts []
    refine ⟨starts.plain.2, ?_⟩
    rw [lexeme_number starts, List.takeWhile_eq_self_iff.mpr run, read]
    rfl
  | name word =>
    subst same
    have read := lexeme_word word (alone _)
    rw [List.append_nil] at read
    cases word with
    | intro visible => exact ⟨visible, read⟩
  | op op =>
    obtain ⟨d, run, symbol, visible, read⟩ := lexeme_op op (alone _)
    rw [List.append_nil] at read
    obtain ⟨rfl, rfl⟩ := List.cons.inj (same.trans symbol)
    exact ⟨visible, read⟩

theorem IsLexeme.exists_cons {text : List Char} {kind : TokenKind} (spelled : IsLexeme kind text) :
    ∃ c body, text = c :: body := by
  cases spelled with
  | number numeral =>
    cases numeral with
    | unsigned filled => exact List.exists_cons_of_ne_nil filled
    | negative => exact ⟨_, _, rfl⟩
  | name word =>
    cases word with
    | intro => exact ⟨_, _, rfl⟩
  | op op => cases op <;> exact ⟨_, _, rfl⟩
  | _ => exact ⟨_, _, rfl⟩

theorem IsLexeme.unique {text : List Char} {kind kind' : TokenKind} (spelled : IsLexeme kind text)
    (spelled' : IsLexeme kind' text) : kind = kind' := by
  obtain ⟨c, body, rfl⟩ := spelled.exists_cons
  have same := spelled.read.2.symm.trans spelled'.read.2
  exact congrArg Prod.fst (Except.ok.inj same)

end WideColumn.Filter
