import WideColumn.Proofs.Filter.Soundness

/-! Completeness of the parser: a phrase is read, whatever follows it that does not go on with it. An
expression is parsed exactly when its tokens are derived, and as the derived tree. The bounds on the
depth say how many levels of the recursion a token can cost. -/
namespace WideColumn.Filter.Grammar

variable {table : Table} {finish : Nat}

theorem expect_complete {t : Token} {kind : TokenKind} (same : t.kind = kind) (what : String)
    (rest : List Token) : expect kind what finish (t :: rest) = .ok rest := by
  simp [expect, same]

theorem ArgumentTail.complete {ts args : List Token} (h : ArgumentTail ts args) {closing : Token}
    (closes : closing.kind = .rightParen) (rest : List Token) :
    moreArguments finish (ts ++ closing :: rest) = .ok (args, closing :: rest) := by
  induction h with
  | nil => exact moreArguments_stop (by simp [closes]) rest
  | cons separator head _ ih =>
    simp [moreArguments, separator, argument_iff.mpr head, ih, Except.map]

theorem Arguments.complete {ts args : List Token} (h : Arguments ts args) {closing : Token}
    (closes : closing.kind = .rightParen) (rest : List Token) :
    arguments finish (ts ++ closing :: rest) = .ok (args, closing :: rest) := by
  cases h with
  | none =>
    obtain ⟨kind, text, position⟩ := closing
    cases closes
    rfl
  | @some a ts args head tail =>
    have other : a.kind ≠ .rightParen := by cases head <;> simp [*]
    obtain ⟨kind, text, position⟩ := a
    have argument := argument_iff.mpr head
    unfold arguments
    split
    · next equal =>
      cases (List.cons.inj equal).1
      exact absurd rfl other
    · simp [WideColumn.Filter.argument, argument, tail.complete closes rest, bind, Except.bind,
        pure, Except.pure]

theorem Call.complete (finish : Nat) {ts : List Token} {n : Node} (h : Call table ts n) :
    ∃ name inside, ts = name :: inside ∧ name.kind = .name ∧ name.isWord "SKIP" = false ∧
      name.isWord "WHILE" = false ∧
      ∀ rest, call table finish name (inside ++ rest) = .ok (n, rest) := by
  cases h with
  | @intro name opening closing ts raw signatures args word free known opens list closes bound =>
    have other : ∀ keyword ∈ ["AND", "OR", "SKIP", "WHILE"], name.isWord keyword = false := by
      intro keyword member
      refine Bool.eq_false_iff.mpr fun same => free ?_
      rw [(isWord_iff.mp same).2]
      exact member
    refine ⟨name, opening :: ts ++ [closing], rfl, word, other _ (by simp), other _ (by simp), ?_⟩
    intro rest
    have arguments : arguments finish (ts ++ closing :: rest) = .ok (raw, closing :: rest) :=
      list.complete closes rest
    have args : bindArguments signatures name raw = .ok args :=
      (bindArguments_eq_ok_iff list.isArgument).mpr bound
    have free : String.ofList name.text ∉ keywords := free
    simp [call, free, known, expect_complete opens, arguments, expect_complete closes, args, bind,
      Except.bind, pure, Except.pure]

/-- Two readers after each other read what each of them reads. -/
theorem sequence_complete {α β γ : Type} {p : List Token → Except Failure (α × List Token)}
    {q : List Token → Except Failure (β × List Token)} {ts following rest : List Token} {a : α}
    {b : β}
    (first : p ts = .ok (a, following)) (second : q following = .ok (b, rest)) (f : α → β → γ) :
    (do
      let (a, ts) ← p ts
      let (b, ts) ← q ts
      return (f a b, ts)) = Except.ok (f a b, rest) := by
  simp [first, second, bind, Except.bind, pure, Except.pure]

theorem Disjuncts.startsWith {ts rest : List Token} {ns : List Node} (h : Disjuncts table ts ns)
    (outside : startsWith "AND" rest = false) : startsWith "AND" (ts ++ rest) = false := by
  cases h with
  | nil => exact outside
  | cons connective =>
    refine Bool.eq_false_iff.mpr fun same => ?_
    have text := (isWord_iff.mp connective).2.symm.trans (isWord_iff.mp same).2
    exact absurd text (by decide)

theorem moreDisjuncts_stop {rest : List Token} (outside : startsWith "OR" rest = false)
    (depth : Nat) :
    moreDisjuncts table finish depth rest = .ok ([], rest) := by
  cases depth <;> simp [moreDisjuncts, outside]

theorem moreConjuncts_stop {rest : List Token} (outside : startsWith "AND" rest = false)
    (depth : Nat) :
    moreConjuncts table finish depth rest = .ok ([], rest) := by
  cases depth <;> simp [moreConjuncts, outside]

mutual

theorem Expression.complete {ts : List Token} {n : Node} (h : Expression table ts n) (depth : Nat)
    (rest : List Token) (deep : 4 * ts.length + 2 ≤ depth) (noOr : startsWith "OR" rest = false)
    (noAnd : startsWith "AND" rest = false) :
    disjunction table finish depth (ts ++ rest) = .ok (n, rest) := by
  obtain ⟨depth, rfl⟩ := Nat.exists_eq_add_of_le' (Nat.one_le_of_lt deep)
  cases h with
  | single only =>
    exact sequence_complete (only.complete depth rest (by omega) noAnd)
      (moreDisjuncts_stop noOr depth) (combine "OR")
  | @chain ts ts' n ns first more several =>
    simp only [List.length_append] at deep
    have head := first.complete depth (ts' ++ rest) (by omega)
      (more.startsWith noAnd)
    have tail := more.complete depth rest (by omega) noOr noAnd
    rw [List.append_assoc]
    simpa [disjunction, combine, several] using sequence_complete head tail (combine "OR")

theorem Disjuncts.complete {ts : List Token} {ns : List Node} (h : Disjuncts table ts ns)
    (depth : Nat) (rest : List Token) (deep : 4 * ts.length ≤ depth)
    (noOr : startsWith "OR" rest = false) (noAnd : startsWith "AND" rest = false) :
    moreDisjuncts table finish depth (ts ++ rest) = .ok (ns, rest) := by
  cases h with
  | nil => exact moreDisjuncts_stop noOr depth
  | @cons word ts ts' n ns connective first more =>
    simp only [List.length_append, List.length_cons] at deep
    obtain ⟨depth, rfl⟩ := Nat.exists_eq_add_of_le' (show 1 ≤ depth by omega)
    have head := first.complete depth (ts' ++ rest) (by omega)
      (more.startsWith noAnd)
    have tail := more.complete depth rest (by omega) noOr noAnd
    have starts : startsWith "OR" (word :: (ts ++ (ts' ++ rest))) = true := connective
    simpa [moreDisjuncts, starts] using sequence_complete head tail List.cons

theorem Conjunction.complete {ts : List Token} {n : Node} (h : Conjunction table ts n) (depth : Nat)
    (rest : List Token) (deep : 4 * ts.length + 1 ≤ depth) (noAnd : startsWith "AND" rest = false) :
    conjunction table finish depth (ts ++ rest) = .ok (n, rest) := by
  obtain ⟨depth, rfl⟩ := Nat.exists_eq_add_of_le' (Nat.one_le_of_lt deep)
  cases h with
  | single only =>
    exact sequence_complete (only.complete depth rest (by omega)) (moreConjuncts_stop noAnd depth)
      (combine "AND")
  | @chain ts ts' n ns first more several =>
    simp only [List.length_append] at deep
    have head := first.complete depth (ts' ++ rest) (by omega)
    have tail := more.complete depth rest (by omega) noAnd
    rw [List.append_assoc]
    simpa [conjunction, combine, several] using sequence_complete head tail (combine "AND")

theorem Conjuncts.complete {ts : List Token} {ns : List Node} (h : Conjuncts table ts ns)
    (depth : Nat) (rest : List Token) (deep : 4 * ts.length ≤ depth)
    (noAnd : startsWith "AND" rest = false) :
    moreConjuncts table finish depth (ts ++ rest) = .ok (ns, rest) := by
  cases h with
  | nil => exact moreConjuncts_stop noAnd depth
  | @cons word ts ts' n ns connective first more =>
    simp only [List.length_append, List.length_cons] at deep
    obtain ⟨depth, rfl⟩ := Nat.exists_eq_add_of_le' (show 1 ≤ depth by omega)
    have head := first.complete depth (ts' ++ rest) (by omega)
    have tail := more.complete depth rest (by omega) noAnd
    have starts : startsWith "AND" (word :: (ts ++ (ts' ++ rest))) = true := connective
    simpa [moreConjuncts, starts] using sequence_complete head tail List.cons

theorem Unary.complete {ts : List Token} {n : Node} (h : Unary table ts n) (depth : Nat)
    (rest : List Token) (deep : 4 * ts.length ≤ depth) :
    unary table finish depth (ts ++ rest) = .ok (n, rest) := by
  cases h with
  | @skip word ts n operator operand =>
    simp only [List.length_cons] at deep
    obtain ⟨depth, rfl⟩ := Nat.exists_eq_add_of_le' (show 1 ≤ depth by omega)
    have inner := operand.complete depth rest (by omega)
    simp [unary, operator, (isWord_iff.mp operator).2, inner, Except.map]
  | @«while» word ts n operator operand =>
    simp only [List.length_cons] at deep
    obtain ⟨depth, rfl⟩ := Nat.exists_eq_add_of_le' (show 1 ≤ depth by omega)
    have inner := operand.complete depth rest (by omega)
    simp [unary, operator, (isWord_iff.mp operator).2, inner, Except.map]
  | @group opening closing ts n opens inside closes =>
    simp only [List.length_append, List.length_cons] at deep
    obtain ⟨depth, rfl⟩ := Nat.exists_eq_add_of_le' (show 1 ≤ depth by omega)
    have noWord : ∀ word, opening.isWord word = false := by simp [Token.isWord, opens]
    have ends : ∀ word, startsWith word (closing :: rest) = false := by
      simp [startsWith, Token.isWord, closes]
    have inner := inside.complete depth (closing :: rest) (by omega) (ends "OR") (ends "AND")
    simp [unary, noWord, opens, inner, expect_complete closes, bind, Except.bind, pure, Except.pure]
  | call leaf =>
    obtain ⟨name, inside, rfl, word, noSkip, noWhile, read⟩ := leaf.complete finish
    simp only [List.length_cons] at deep
    obtain ⟨depth, rfl⟩ := Nat.exists_eq_add_of_le' (show 1 ≤ depth by omega)
    simp [unary, noSkip, noWhile, word, read]

end

/-! The parser against the grammar. -/

theorem parseTokens_iff {ts : List Token} {n : Node} :
    parseTokens table finish ts = .ok n ↔ Expression table ts n := by
  unfold parseTokens
  constructor
  · intro h
    split at h
    · cases h
    · next read =>
      cases h
      obtain ⟨used, rfl, derived⟩ := disjunction_sound _ read
      simpa using derived
    · cases h
  · intro derived
    have read : disjunction table finish (depthFor ts.length) (ts ++ []) = .ok (n, []) :=
      derived.complete (depthFor ts.length) [] (by simp only [depthFor]; omega) rfl rfl
    rw [List.append_nil] at read
    simp [read]

theorem scanAfter_blank {cs : List Char} (blank : Text.isBlankText cs = true) (position : Nat) :
    scanAfter 0 position cs = .ok [] := by
  induction cs generalizing position with
  | nil => rfl
  | cons c rest ih =>
    simp only [Text.isBlankText, List.all_cons, Bool.and_eq_true] at blank
    simpa only [scanAfter, blank.1, if_true] using ih blank.2 (position + 1)

theorem parse_eq_some_iff {cs : List Char} {ts : List Token} (scanned : scan cs = .ok ts)
    {n : Node} :
    parse table cs = .ok (some n) ↔ Expression table ts n := by
  unfold parse
  split
  · next blank =>
    have empty : ts = [] := by
      have := (scanAfter_blank blank 0).symm.trans scanned
      simpa using this.symm
    constructor
    · intro h; cases h
    · intro derived; exact absurd empty derived.ne_nil
  · simp only [scanned, map_eq_ok_iff, Option.some.injEq, exists_eq_right]
    exact parseTokens_iff

/-- What stands before the last token of a text is what the scanner gives the parser. -/
theorem scan_of_tokenize {cs : List Char} {ts : List Token}
    (tokens : tokenize cs = .ok (ts ++ [Token.finish cs.length])) : scan cs = .ok ts := by
  obtain ⟨ts', scanned, same⟩ := map_eq_ok_iff.mp tokens
  rwa [List.append_cancel_right same] at scanned

/-- The parser accepts exactly what the grammar derives, with the derived tree, over every table; so
a token list has at most one tree. -/
theorem parse_iff_derived {table : Table} {cs : List Char} {ts : List Token}
    (tokens : tokenize cs = .ok (ts ++ [Token.finish cs.length])) :
    (∀ n, parse table cs = .ok (some n) ↔ Expression table ts n) ∧
      ∀ m n, Expression table ts m → Expression table ts n → m = n := by
  have accepted : ∀ n, parse table cs = .ok (some n) ↔ Expression table ts n :=
    fun n => parse_eq_some_iff (scan_of_tokenize tokens)
  refine ⟨accepted, fun m n first second => ?_⟩
  have same := ((accepted m).mpr first).symm.trans ((accepted n).mpr second)
  simpa using same

/-- A wrapper binds more tightly than `OR`. -/
theorem parse_iff_derived_skip_or :
    parse Table.default "SKIP KeyOnlyFilter () OR PageFilter (3)".toList =
      .ok (some (.list "OR" [.wrap "SKIP" (.leaf "KeyOnlyFilter" []),
        .leaf "PageFilter" [.number 3]])) := by
  have tokens : (tokenize "SKIP KeyOnlyFilter () OR PageFilter (3)".toList).toOption =
      some ([⟨.name, "SKIP".toList, 0⟩, ⟨.name, "KeyOnlyFilter".toList, 5⟩, ⟨.leftParen, ['('], 19⟩,
        ⟨.rightParen, [')'], 20⟩, ⟨.name, "OR".toList, 22⟩, ⟨.name, "PageFilter".toList, 25⟩,
        ⟨.leftParen, ['('], 36⟩, ⟨.number 3, ['3'], 37⟩, ⟨.rightParen, [')'], 38⟩] ++
        [Token.finish 39]) := by decide +kernel
  have noArguments : FirstMatch [⟨[], none⟩, ⟨[.flag], none⟩] [] [] := .here ⟨_, .exact rfl, .nil⟩
  have oneNumber : FirstMatch [⟨[.number], none⟩] [⟨.number 3, ['3'], 37⟩] [.number 3] :=
    .here ⟨_, .exact rfl, .cons (.number rfl (by decide)) .nil⟩
  refine ((parse_iff_derived (toOption_eq_some tokens)).1 _).mpr ?_
  have keyOnly : Call Table.default [⟨.name, "KeyOnlyFilter".toList, 5⟩, ⟨.leftParen, ['('], 19⟩,
      ⟨.rightParen, [')'], 20⟩] (.leaf "KeyOnlyFilter" []) :=
    .intro rfl (by decide) rfl rfl .none rfl noArguments
  have page : Call Table.default [⟨.name, "PageFilter".toList, 25⟩, ⟨.leftParen, ['('], 36⟩,
      ⟨.number 3, ['3'], 37⟩, ⟨.rightParen, [')'], 38⟩] (.leaf "PageFilter" [.number 3]) :=
    .intro rfl (by decide) rfl rfl (.some (.number rfl) .nil) rfl oneNumber
  exact .chain (.single (.skip (by decide) (.call keyOnly)))
    (.cons (by decide) (.single (.call page)) .nil) (by simp)

/-- A signature whose last kind is the empty text stops the search. The arguments of `A ()` match
the second signature first, but the expression has no tree. -/
theorem nameless_kind_hides_match :
    tokenize "A ()".toList =
        .ok ([⟨.name, ['A'], 0⟩, ⟨.leftParen, ['('], 2⟩, ⟨.rightParen, [')'], 3⟩] ++
          [Token.finish 4]) ∧
      (¬ ∃ args, (Signature.ofKindNames [""]).Matches [] args) ∧
      (Signature.ofKindNames []).Matches [] [] ∧
      ∀ n, parse (Table.extending [("A", [.ofKindNames [""], .ofKindNames []])]) "A ()".toList ≠
        .ok (some n) := by
  have tokens : (tokenize "A ()".toList).toOption =
      some ([⟨.name, ['A'], 0⟩, ⟨.leftParen, ['('], 2⟩, ⟨.rightParen, [')'], 3⟩] ++
        [Token.finish 4]) := by decide +kernel
  have failed : (parse (Table.extending [("A", [.ofKindNames [""], .ofKindNames []])])
      "A ()".toList).toOption.isNone = true := by decide +kernel
  refine ⟨toOption_eq_some tokens, fun ⟨args, taken⟩ => ?_, ⟨_, .exact rfl, .nil⟩, ?_⟩
  · exact absurd taken.named (by decide)
  · intro n parsed
    rw [parsed] at failed
    cases failed

end WideColumn.Filter.Grammar
