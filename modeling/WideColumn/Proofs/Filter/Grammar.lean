import WideColumn.Proofs.Filter.Matching

/-! The grammar of filter expressions over tokens, with the tree of each phrase.

    expression  := conjunction (OR conjunction)*
    conjunction := unary (AND unary)*
    unary       := SKIP unary | WHILE unary | primary
    primary     := '(' expression ')' | NAME '(' [argument (',' argument)*] ')' -/
namespace WideColumn.Filter.Grammar

/-- A literal, an operator, or one of the words for truth values. -/
inductive Argument : Token → Prop
  | string {t : Token} {value : List Char} (literal : t.kind = .string value) : Argument t
  | number {t : Token} {value : Int} (literal : t.kind = .number value) : Argument t
  | op {t : Token} {value : CompareOp} (symbol : t.kind = .op value) : Argument t
  | truth {t : Token} {value : Bool} (word : t.kind = .name) (known : flag? t.text = some value) :
      Argument t

/-- `(',' argument)*`, with the arguments alone. -/
inductive ArgumentTail : List Token → List Token → Prop
  | nil : ArgumentTail [] []
  | cons {comma a : Token} {ts args : List Token} (separator : comma.kind = .comma)
      (head : Argument a) (tail : ArgumentTail ts args) :
      ArgumentTail (comma :: a :: ts) (a :: args)

/-- `[argument (',' argument)*]`, with the arguments alone. -/
inductive Arguments : List Token → List Token → Prop
  | none : Arguments [] []
  | some {a : Token} {ts args : List Token} (head : Argument a) (tail : ArgumentTail ts args) :
      Arguments (a :: ts) (a :: args)

/-- `NAME '(' [argument (',' argument)*] ')'`. The name is in the table and no keyword, and the
arguments of the leaf are those of the first signature that matches. -/
inductive Call (table : Table) : List Token → Node → Prop
  | intro {name opening closing : Token} {ts raw : List Token} {signatures : List Signature}
      {args : List Arg} (word : name.kind = .name)
      (free : String.ofList name.text ∉ ["AND", "OR", "SKIP", "WHILE"])
      (known : table.get? (String.ofList name.text) = some signatures)
      (opens : opening.kind = .leftParen) (list : Arguments ts raw)
      (closes : closing.kind = .rightParen) (bound : FirstMatch signatures raw args) :
      Call table (name :: opening :: ts ++ [closing]) (.leaf (String.ofList name.text) args)

mutual

/-- One operand is no list; two or more are one list, in order. -/
inductive Expression (table : Table) : List Token → Node → Prop
  | single {ts : List Token} {n : Node} (only : Conjunction table ts n) : Expression table ts n
  | chain {ts rest : List Token} {n : Node} {ns : List Node} (first : Conjunction table ts n)
      (more : Disjuncts table rest ns) (several : ns ≠ []) :
      Expression table (ts ++ rest) (.list "OR" (n :: ns))

/-- `(OR conjunction)*` -/
inductive Disjuncts (table : Table) : List Token → List Node → Prop
  | nil : Disjuncts table [] []
  | cons {word : Token} {ts rest : List Token} {n : Node} {ns : List Node}
      (connective : word.isWord "OR" = true) (head : Conjunction table ts n)
      (tail : Disjuncts table rest ns) : Disjuncts table (word :: ts ++ rest) (n :: ns)

inductive Conjunction (table : Table) : List Token → Node → Prop
  | single {ts : List Token} {n : Node} (only : Unary table ts n) : Conjunction table ts n
  | chain {ts rest : List Token} {n : Node} {ns : List Node} (first : Unary table ts n)
      (more : Conjuncts table rest ns) (several : ns ≠ []) :
      Conjunction table (ts ++ rest) (.list "AND" (n :: ns))

/-- `(AND unary)*` -/
inductive Conjuncts (table : Table) : List Token → List Node → Prop
  | nil : Conjuncts table [] []
  | cons {word : Token} {ts rest : List Token} {n : Node} {ns : List Node}
      (connective : word.isWord "AND" = true) (head : Unary table ts n)
      (tail : Conjuncts table rest ns) : Conjuncts table (word :: ts ++ rest) (n :: ns)

inductive Unary (table : Table) : List Token → Node → Prop
  | skip {word : Token} {ts : List Token} {n : Node} (operator : word.isWord "SKIP" = true)
      (operand : Unary table ts n) : Unary table (word :: ts) (.wrap "SKIP" n)
  | while {word : Token} {ts : List Token} {n : Node} (operator : word.isWord "WHILE" = true)
      (operand : Unary table ts n) : Unary table (word :: ts) (.wrap "WHILE" n)
  | group {opening closing : Token} {ts : List Token} {n : Node}
      (opens : opening.kind = .leftParen) (inside : Expression table ts n)
      (closes : closing.kind = .rightParen) : Unary table (opening :: ts ++ [closing]) n
  | call {ts : List Token} {n : Node} (leaf : Call table ts n) : Unary table ts n

end

variable {table : Table}

theorem isWord_iff {word : String} {t : Token} :
    t.isWord word = true ↔ t.kind = .name ∧ String.ofList t.text = word := by
  simp [Token.isWord]

theorem argument_iff {t : Token} : t.isArgument = true ↔ Argument t := by
  constructor
  · intro h
    cases kind : t.kind with
    | string value => exact .string kind
    | number value => exact .number kind
    | op value => exact .op kind
    | name =>
      simp only [Token.isArgument, kind] at h
      obtain ⟨value, known⟩ := Option.isSome_iff_exists.mp h
      exact .truth kind known
    | leftParen | rightParen | comma | finish => simp [Token.isArgument, kind] at h
  · intro h
    cases h with
    | string literal | number literal => simp [Token.isArgument, literal]
    | op symbol => simp [Token.isArgument, symbol]
    | truth word known => simp [Token.isArgument, word, known]

theorem ArgumentTail.isArgument {ts args : List Token} (h : ArgumentTail ts args) :
    ∀ t ∈ args, t.isArgument = true := by
  induction h with
  | nil => simp
  | cons _ head _ ih => simpa using ⟨argument_iff.mpr head, ih⟩

theorem Arguments.isArgument {ts args : List Token} (h : Arguments ts args) :
    ∀ t ∈ args, t.isArgument = true := by
  cases h with
  | none => simp
  | some head tail => simpa using ⟨argument_iff.mpr head, tail.isArgument⟩

theorem Unary.ne_nil {ts : List Token} {n : Node} (h : Unary table ts n) : ts ≠ [] := by
  cases h with
  | call leaf => cases leaf; simp
  | _ => simp

theorem Conjunction.ne_nil {ts : List Token} {n : Node} (h : Conjunction table ts n) : ts ≠ [] := by
  cases h with
  | single only => exact only.ne_nil
  | chain first => simp [first.ne_nil]

theorem Expression.ne_nil {ts : List Token} {n : Node} (h : Expression table ts n) : ts ≠ [] := by
  cases h with
  | single only => exact only.ne_nil
  | chain first => simp [first.ne_nil]

end WideColumn.Filter.Grammar
