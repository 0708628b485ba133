import WideColumn.Proofs.Filter.Lexemes
import WideColumn.Proofs.Filter.Rebinding

/-! The written form of a tree against the grammar. The trees that a parse can give are written as
texts whose tokens derive them again. -/
namespace WideColumn.Filter

open Text (isBlank isDigit)

/-- The arguments that tokens can spell: byte strings are encoded texts, and numbers can be written
in few enough digits. -/
inductive Arg.Writable : Arg → Prop
  | text {value : List Char} : Writable (.text (Utf8.encode value))
  | number {n : Nat} (bound : n < 10 ^ Text.integerDigitLimit) : Writable (.number n)
  | flag {value : Bool} : Writable (.flag value)
  | op {value : CompareOp} : Writable (.op value)
  | comparator {kind : ComparatorKind} {value : List Char} :
      Writable (.comparator ⟨kind, Utf8.encode value⟩)

/-- An argument that is no number with more digits than can be read. -/
def Arg.IsShort (arg : Arg) : Prop :=
  ∀ value, arg = number value → value.natAbs < 10 ^ Text.integerDigitLimit

/-- The trees that a parse can give: leaves that the table knows, with arguments of one of their
signatures, lists of at least two, and wrappers. -/
inductive Printable (table : Table) : Node → Prop
  | leaf {name : List Char} {signatures : List Signature} {raw : List Token} {args : List Arg}
      (word : Word name) (free : String.ofList name ∉ ["AND", "OR", "SKIP", "WHILE"])
      (known : table.get? (String.ofList name) = some signatures)
      (bound : FirstMatch signatures raw args) (writable : ∀ arg ∈ args, arg.Writable) :
      Printable table (.leaf (String.ofList name) args)
  | list {operator : String} {first second : Node} {more : List Node}
      (connective : operator = "AND" ∨ operator = "OR")
      (children : ∀ child ∈ first :: second :: more, Printable table child) :
      Printable table (.list operator (first :: second :: more))
  | wrap {kind : String} {child : Node} (operator : kind = "SKIP" ∨ kind = "WHILE")
      (inside : Printable table child) : Printable table (.wrap kind child)

/-- What scanning says about a token. -/
abbrev Shaped (t : Token) : Prop :=
  (t.kind = .name → Word t.text) ∧
    ∀ value, t.kind = .number value → value.natAbs < 10 ^ Text.integerDigitLimit

theorem Fits.writable {previous : Option Arg} {kind : ArgKind} {t : Token} {arg : Arg}
    (fits : Fits previous kind t arg) (shaped : Shaped t) : arg.Writable := by
  cases fits with
  | text => exact .text
  | @number _ value literal natural =>
    obtain ⟨n, rfl⟩ := Int.eq_ofNat_of_zero_le natural
    exact .number (shaped.2 _ literal)
  | flag => exact .flag
  | op => exact .op
  | comparator literal spelled =>
    cases spelled
    exact .comparator

theorem Binds.writable {previous : Option Arg} {kinds : List ArgKind} {ts : List Token}
    {args : List Arg} (bound : Binds previous kinds ts args) (shaped : ∀ t ∈ ts, Shaped t) :
    ∀ arg ∈ args, arg.Writable := by
  induction bound with
  | nil => simp
  | cons fits _ ih =>
    simp only [List.mem_cons, forall_eq_or_imp] at shaped ⊢
    exact ⟨fits.writable shaped.1, ih shaped.2⟩

namespace Grammar

variable {table : Table}

theorem ArgumentTail.shaped {ts args : List Token} (h : ArgumentTail ts args)
    (shaped : ∀ t ∈ ts, Shaped t) : ∀ t ∈ args, Shaped t := by
  induction h with
  | nil => exact shaped
  | cons _ _ _ ih =>
    simp only [List.forall_mem_cons] at shaped ⊢
    exact ⟨shaped.2.1, ih shaped.2.2⟩

theorem Arguments.shaped {ts args : List Token} (h : Arguments ts args)
    (shaped : ∀ t ∈ ts, Shaped t) : ∀ t ∈ args, Shaped t := by
  cases h with
  | none => exact shaped
  | some head tail =>
    simp only [List.forall_mem_cons] at shaped ⊢
    exact ⟨shaped.1, tail.shaped shaped.2⟩

theorem Call.printable {ts : List Token} {n : Node} (h : Call table ts n)
    (shaped : ∀ t ∈ ts, Shaped t) : Printable table n := by
  cases h with
  | intro word free known opens list closes bound =>
    simp only [List.forall_mem_append, List.forall_mem_cons] at shaped
    obtain ⟨⟨name, -, inside⟩, -⟩ := shaped
    obtain ⟨kinds, binds⟩ := bound.binds
    exact .leaf (name.1 word) free known bound (binds.writable (list.shaped inside))

mutual

theorem Expression.printable {ts : List Token} {n : Node} :
    Expression table ts n → (∀ t ∈ ts, Shaped t) → Printable table n
  | .single only, shaped => only.printable shaped
  | .chain first more several, shaped => by
    rw [List.forall_mem_append] at shaped
    have head := first.printable shaped.1
    have tail := more.printable shaped.2
    obtain ⟨second, others, rfl⟩ := List.exists_cons_of_ne_nil several
    exact .list (.inr rfl) (List.forall_mem_cons.mpr ⟨head, tail⟩)

theorem Disjuncts.printable {ts : List Token} {ns : List Node} :
    Disjuncts table ts ns → (∀ t ∈ ts, Shaped t) → ∀ n ∈ ns, Printable table n
  | .nil, _ => by simp
  | .cons _ first more, shaped => by
    simp only [List.forall_mem_append, List.forall_mem_cons] at shaped
    exact List.forall_mem_cons.mpr ⟨first.printable shaped.1.2, more.printable shaped.2⟩

theorem Conjunction.printable {ts : List Token} {n : Node} :
    Conjunction table ts n → (∀ t ∈ ts, Shaped t) → Printable table n
  | .single only, shaped => only.printable shaped
  | .chain first more several, shaped => by
    rw [List.forall_mem_append] at shaped
    have head := first.printable shaped.1
    have tail := more.printable shaped.2
    obtain ⟨second, others, rfl⟩ := List.exists_cons_of_ne_nil several
    exact .list (.inl rfl) (List.forall_mem_cons.mpr ⟨head, tail⟩)

theorem Conjuncts.printable {ts : List Token} {ns : List Node} :
    Conjuncts table ts ns → (∀ t ∈ ts, Shaped t) → ∀ n ∈ ns, Printable table n
  | .nil, _ => by simp
  | .cons _ first more, shaped => by
    simp only [List.forall_mem_append, List.forall_mem_cons] at shaped
    exact List.forall_mem_cons.mpr ⟨first.printable shaped.1.2, more.printable shaped.2⟩

theorem Unary.printable {ts : List Token} {n : Node} :
    Unary table ts n → (∀ t ∈ ts, Shaped t) → Printable table n
  | .skip _ operand, shaped =>
    .wrap (.inl rfl) (operand.printable (List.forall_mem_cons.mp shaped).2)
  | .while _ operand, shaped =>
    .wrap (.inr rfl) (operand.printable (List.forall_mem_cons.mp shaped).2)
  | .group _ inside _, shaped => by
    simp only [List.forall_mem_append, List.forall_mem_cons] at shaped
    exact inside.printable shaped.1.2
  | .call leaf, shaped => leaf.printable shaped

end

end Grammar

/-! Written texts, read again. Each part is read with whatever stands behind it. -/

theorem Prefix.one {c : Char} {body rest : List Char} {kind : TokenKind}
    (visible : isBlank c = false) (read : lexeme c (body ++ rest) = .ok (kind, body.length))
    (p : Nat) :
    ∃ q, Prefix p (c :: body ++ rest) [⟨kind, c :: body, p⟩] q rest :=
  ⟨_, .token visible read .done⟩

theorem Prefix.leftParen (p : Nat) (rest : List Char) :
    Prefix p ('(' :: rest) [⟨.leftParen, ['('], p⟩] (p + 1) rest :=
  @Prefix.token p _ '(' [] rest rest .leftParen [] (by decide +kernel) rfl .done

theorem Prefix.rightParen (p : Nat) (rest : List Char) :
    Prefix p (')' :: rest) [⟨.rightParen, [')'], p⟩] (p + 1) rest :=
  @Prefix.token p _ ')' [] rest rest .rightParen [] (by decide +kernel) rfl .done

theorem Prefix.comma (p : Nat) (rest : List Char) :
    Prefix p (',' :: ' ' :: rest) [⟨.comma, [','], p⟩] (p + 2) rest :=
  @Prefix.token p _ ',' [] (' ' :: rest) rest .comma [] (by decide +kernel) rfl
    (@Prefix.blank (p + 1) _ ' ' rest rest [] (by decide +kernel) .done)

theorem Prefix.word {cs : List Char} (word : Word cs) (p : Nat) {rest : List Char}
    (stops : Stops isNameRest rest) : ∃ q, Prefix p (cs ++ rest) [⟨.name, cs, p⟩] q rest := by
  cases word with
  | intro visible first plain notDigit inside =>
    exact Prefix.one visible (lexeme_word (.intro visible first plain notDigit inside) stops) p

/-- A word and the blank that separates it from the rest. -/
theorem Prefix.wordBlank {cs : List Char} (word : Word cs) (p : Nat) (rest : List Char) :
    ∃ q, Prefix p (cs ++ ' ' :: rest) [⟨.name, cs, p⟩] q rest := by
  have other : isNameRest ' ' = false := by simp [isNameRest, Text.isLetterOrNumeral_ascii]
  have stops : Stops isNameRest (' ' :: rest) := by simpa [Stops] using other
  have space : isBlank ' ' = true := by decide +kernel
  obtain ⟨q, h⟩ := Prefix.word word p stops
  exact ⟨q + 1, h.append (.blank space .done)⟩

/-- What may stand behind an argument: it goes on with no token. -/
inductive Ends : List Char → Prop
  | intro {c : Char} {rest : List Char} (mark : c ∈ [',', ')']) : Ends (c :: rest)

theorem Ends.stops {rest : List Char} (h : Ends rest) : ∀ p ∈ continuations, Stops p rest := by
  obtain ⟨mark⟩ := h
  simp only [List.mem_cons, List.not_mem_nil, or_false] at mark
  rcases mark with rfl | rfl <;>
    simp [continuations, Stops, isNameRest, Text.isLetterOrNumeral_ascii, Text.isDigit_ascii]

theorem Writes.argument {arg : Arg} {t : Token} (h : Writes arg t) : Grammar.Argument t := by
  obtain ⟨kind, text⟩ := h
  cases arg with
  | text value => exact .string kind
  | number value => exact .number kind
  | op value => exact .op kind
  | comparator value => exact .string kind
  | flag value =>
    have truth : flag? t.text = some value := by
      rw [text]
      cases value <;> decide
    exact .truth kind truth

theorem word_truth (value : Bool) : Word (Arg.flag value).piece.text := by
  cases value with
  | false => exact .of_isAlpha (by decide)
  | true => exact .of_isAlpha (by decide)

theorem numeral_integer (n : Int) : Numeral (Text.integer n) := by
  have digits := Text.isDigit_natural n.natAbs
  have filled : Text.natural n.natAbs ≠ [] := Nat.toDigits_ne_nil
  unfold Text.integer
  split
  · exact .negative filled digits
  · exact .unsigned filled digits

/-- An argument is written as one token, if it can be read at all. -/
theorem Arg.IsShort.isLexeme {arg : Arg} (short : arg.IsShort) :
    IsLexeme arg.tokenKind arg.piece.text := by
  cases arg with
  | text value => exact .string (paired_iff.mpr rfl)
  | number value => exact .number (numeral_integer value) (Text.readInteger_integer (short value rfl))
  | flag value => exact .name (word_truth value)
  | op value => exact .op value
  | comparator value => exact .string (paired_iff.mpr rfl)

theorem IsLexeme.before {kind : TokenKind} {text : List Char} (spelled : IsLexeme kind text)
    {rest : List Char} (ends : Ends rest) (p : Nat) :
    ∃ q, Prefix p (text ++ rest) [⟨kind, text, p⟩] q rest := by
  obtain ⟨c, body, rfl⟩ := spelled.exists_cons
  obtain ⟨visible, read⟩ := spelled.read
  rw [← List.append_nil body] at read
  have separates : Separates [] rest := fun class_ member _ => ends.stops class_ member
  exact Prefix.one visible (lexeme_front visible (by simpa using read) separates) p

theorem Arg.Writable.isShort {arg : Arg} (writable : arg.Writable) : arg.IsShort := by
  rintro value rfl
  cases writable with
  | number bound => exact bound

theorem Arg.Writable.read {arg : Arg} (writable : arg.Writable) (p : Nat) {rest : List Char}
    (ends : Ends rest) : ∃ t q, Writes arg t ∧ Prefix p (arg.piece.text ++ rest) [t] q rest := by
  obtain ⟨q, read⟩ := writable.isShort.isLexeme.before ends p
  exact ⟨_, q, ⟨rfl, rfl⟩, read⟩

theorem flatMap_intersperse {α β : Type} (f : α → List β) (separator first : α) (more : List α) :
    ((first :: more).intersperse separator).flatMap f =
      f first ++ more.flatMap fun a => f separator ++ f a := by
  induction more generalizing first with
  | nil => simp
  | cons second more ih => simp [ih]

/-- Behind an argument stands a comma or the closing parenthesis. -/
theorem ends_moreArguments (args : List Arg) (rest : List Char) :
    Ends (args.flatMap (fun arg => [',', ' '] ++ arg.piece.text) ++ ')' :: rest) := by
  cases args with
  | nil => exact .intro (by simp)
  | cons arg args => exact .intro (by simp)

/-- The arguments after the first one, up to the closing parenthesis. -/
theorem read_moreArguments {args : List Arg} (writable : ∀ arg ∈ args, arg.Writable) (p : Nat)
    (rest : List Char) : ∃ ts raw q, Grammar.ArgumentTail ts raw ∧ WritesAll args raw ∧
      Prefix p (args.flatMap (fun arg => [',', ' '] ++ arg.piece.text) ++ ')' :: rest) ts q
        (')' :: rest) := by
  induction args generalizing p with
  | nil => exact ⟨[], [], p, .nil, .nil, .done⟩
  | cons arg args ih =>
    simp only [List.forall_mem_cons] at writable
    have ends := ends_moreArguments args rest
    obtain ⟨t, q, writes, head⟩ := writable.1.read (p + 2) ends
    obtain ⟨ts, raw, q', tail, others, more⟩ := ih writable.2 q
    refine ⟨⟨.comma, [','], p⟩ :: t :: ts, t :: raw, q', .cons rfl writes.argument tail,
      .cons writes others, ?_⟩
    have whole := (Prefix.comma p _).append (head.append more)
    simpa using whole

/-- The written arguments of a leaf. -/
def argumentsText (args : List Arg) : List Char :=
  ((args.map Arg.piece).intersperse (.plain [',', ' '])).flatMap Piece.text

theorem argumentsText_cons (arg : Arg) (args : List Arg) : argumentsText (arg :: args) =
    arg.piece.text ++ args.flatMap fun arg => [',', ' '] ++ arg.piece.text := by
  rw [argumentsText, List.map_cons, flatMap_intersperse, List.flatMap_map]
  rfl

theorem Node.leaf_text (name : String) (args : List Arg) : (leaf name args).text =
    name.toList ++ ' ' :: '(' :: argumentsText args ++ [')'] := by
  simp [text, pieces, Piece.text, argumentsText]

theorem read_arguments {args : List Arg} (writable : ∀ arg ∈ args, arg.Writable) (p : Nat)
    (rest : List Char) : ∃ ts raw q, Grammar.Arguments ts raw ∧ WritesAll args raw ∧
      Prefix p (argumentsText args ++ ')' :: rest) ts q (')' :: rest) := by
  cases args with
  | nil => exact ⟨[], [], p, .none, .nil, .done⟩
  | cons arg args =>
    simp only [List.forall_mem_cons] at writable
    have ends := ends_moreArguments args rest
    obtain ⟨t, q, writes, head⟩ := writable.1.read p ends
    obtain ⟨ts, raw, q', tail, others, more⟩ := read_moreArguments writable.2 q rest
    refine ⟨t :: ts, t :: raw, q', .some writes.argument tail, .cons writes others, ?_⟩
    rw [argumentsText_cons, List.append_assoc]
    exact head.append more

/-- A text is read as a phrase of a tree, whatever stands behind it. -/
def Spells (phrase : List Token → Node → Prop) (cs : List Char) (n : Node) : Prop :=
  ∀ p rest, ∃ ts q, phrase ts n ∧ Prefix p (cs ++ rest) ts q rest

/-- The written form of an operand: a list stands in parentheses. -/
def Node.operandText (n : Node) : List Char := (n.parenthesize n.pieces).flatMap Piece.text

theorem Node.operandText_eq (n : Node) :
    n.operandText = if n.isList then '(' :: n.text ++ [')'] else n.text := by
  unfold operandText parenthesize text
  split <;> simp [Piece.text]

open Grammar (Expression Conjunction Unary Disjuncts Conjuncts Call)

variable {table : Table}

theorem leaf_spells {name : List Char} {signatures : List Signature} {raw : List Token}
    {args : List Arg} (word : Word name)
    (free : String.ofList name ∉ ["AND", "OR", "SKIP", "WHILE"])
    (known : table.get? (String.ofList name) = some signatures)
    (bound : FirstMatch signatures raw args) (writable : ∀ arg ∈ args, arg.Writable) :
    Spells (Unary table) (Node.leaf (String.ofList name) args).text
      (.leaf (String.ofList name) args) := by
  intro p rest
  obtain ⟨q, first⟩ := Prefix.wordBlank word p ('(' :: (argumentsText args ++ ')' :: rest))
  have opening := Prefix.leftParen q (argumentsText args ++ ')' :: rest)
  obtain ⟨ts, raw', r, list, writes, inside⟩ := read_arguments writable (q + 1) rest
  have closing := Prefix.rightParen r rest
  refine ⟨⟨.name, name, p⟩ :: ⟨.leftParen, ['('], q⟩ :: ts ++ [⟨.rightParen, [')'], r⟩], r + 1,
    .call (.intro rfl free known rfl list rfl (bound.writes writes)), ?_⟩
  have whole := first.append (opening.append (inside.append closing))
  simpa [Node.leaf_text] using whole

theorem group_spells {n : Node} (inside : Spells (Expression table) n.text n) :
    Spells (Unary table) ('(' :: n.text ++ [')']) n := by
  intro p rest
  obtain ⟨ts, q, derived, read⟩ := inside (p + 1) (')' :: rest)
  refine ⟨⟨.leftParen, ['('], p⟩ :: ts ++ [⟨.rightParen, [')'], q⟩], q + 1,
    .group rfl derived rfl, ?_⟩
  have whole := (Prefix.leftParen p _).append (read.append (Prefix.rightParen q rest))
  simpa using whole

theorem word_operator {operator : String} (h : operator ∈ ["AND", "OR", "SKIP", "WHILE"]) :
    Word operator.toList := by
  simp only [List.mem_cons, List.not_mem_nil, or_false] at h
  rcases h with rfl | rfl | rfl | rfl <;> exact .of_isAlpha (by decide)

theorem Node.wrap_text (kind : String) (child : Node) :
    (wrap kind child).text = kind.toList ++ ' ' :: child.operandText := by
  simp [text, pieces, Piece.text, operandText]

theorem wrap_spells {kind : String} {child : Node} (operator : kind = "SKIP" ∨ kind = "WHILE")
    (inside : Spells (Unary table) child.operandText child) :
    Spells (Unary table) (Node.wrap kind child).text (.wrap kind child) := by
  intro p rest
  have word : Word kind.toList := word_operator (by rcases operator with rfl | rfl <;> simp)
  obtain ⟨q, first⟩ := Prefix.wordBlank word p (child.operandText ++ rest)
  obtain ⟨ts, r, derived, read⟩ := inside q rest
  refine ⟨⟨.name, kind.toList, p⟩ :: ts, r, ?_, ?_⟩
  · have same : Token.isWord kind ⟨.name, kind.toList, p⟩ = true := by simp [Token.isWord]
    rcases operator with rfl | rfl
    · exact .skip same derived
    · exact .while same derived
  · have whole := first.append read
    simpa [Node.wrap_text] using whole

theorem childPieces_eq (children : List Node) :
    Node.childPieces children = children.map fun child => child.parenthesize child.pieces := by
  induction children with
  | nil => rfl
  | cons child children ih => simp [Node.childPieces, ih]

theorem list_text (operator : String) (first : Node) (more : List Node) :
    (Node.list operator (first :: more)).text = first.operandText ++
      more.flatMap fun child => ' ' :: operator.toList ++ ' ' :: child.operandText := by
  have joined := flatMap_intersperse (List.flatMap Piece.text)
    [.plain (' ' :: operator.toList ++ [' '])] (first.parenthesize first.pieces)
    (more.map fun child => child.parenthesize child.pieces)
  simp only [List.flatMap_map] at joined
  rw [Node.text, Node.pieces, childPieces_eq, List.map_cons, List.flatten_eq_flatMap,
    List.flatMap_assoc]
  simpa [Piece.text, Node.operandText] using joined

/-- The operands after the first one, each behind the connective. -/
theorem read_operands {operator : String} (connective : operator = "AND" ∨ operator = "OR")
    {ns : List Node} (operands : ∀ n ∈ ns, Spells (Unary table) n.operandText n) (p : Nat)
    (rest : List Char) : ∃ ts q, (operator = "AND" → Conjuncts table ts ns) ∧
      (operator = "OR" → Disjuncts table ts ns) ∧
      Prefix p (ns.flatMap (fun n => ' ' :: operator.toList ++ ' ' :: n.operandText) ++ rest) ts q
        rest := by
  have word : Word operator.toList := word_operator (by rcases connective with rfl | rfl <;> simp)
  have space : isBlank ' ' = true := by decide +kernel
  induction ns generalizing p with
  | nil => exact ⟨[], p, fun _ => .nil, fun _ => .nil, .done⟩
  | cons n ns ih =>
    simp only [List.forall_mem_cons] at operands
    obtain ⟨q, first⟩ := Prefix.wordBlank word (p + 1) (n.operandText ++
      (ns.flatMap (fun n => ' ' :: operator.toList ++ ' ' :: n.operandText) ++ rest))
    obtain ⟨ts, r, derived, read⟩ := operands.1 q
      (ns.flatMap (fun n => ' ' :: operator.toList ++ ' ' :: n.operandText) ++ rest)
    obtain ⟨us, s, conjuncts, disjuncts, more⟩ := ih operands.2 r
    have same : Token.isWord operator ⟨.name, operator.toList, p + 1⟩ = true := by
      simp [Token.isWord]
    refine ⟨⟨.name, operator.toList, p + 1⟩ :: ts ++ us, s, fun h => ?_, fun h => ?_, ?_⟩
    · exact .cons (h ▸ same) derived (conjuncts h)
    · exact .cons (h ▸ same) (.single derived) (disjuncts h)
    · have whole := (Prefix.blank space first).append (read.append more)
      simpa using whole

theorem list_spells {operator : String} {first second : Node} {more : List Node}
    (connective : operator = "AND" ∨ operator = "OR")
    (operands : ∀ n ∈ first :: second :: more, Spells (Unary table) n.operandText n) :
    Spells (Expression table) (Node.list operator (first :: second :: more)).text
      (.list operator (first :: second :: more)) := by
  intro p rest
  rw [List.forall_mem_cons] at operands
  rw [list_text, List.append_assoc]
  obtain ⟨ts, q, derived, read⟩ := operands.1 p _
  obtain ⟨us, r, conjuncts, disjuncts, others⟩ := read_operands connective operands.2 q rest
  refine ⟨ts ++ us, r, ?_, read.append others⟩
  rcases connective with rfl | rfl
  · exact .single (.chain derived (conjuncts rfl) (by simp))
  · exact .chain (.single derived) (disjuncts rfl) (by simp)

/-- The written form of every tree that a parse can give derives the tree. Only a list needs
parentheses to be an operand. -/
theorem Printable.spells {n : Node} (h : Printable table n) :
    Spells (Unary table) n.operandText n ∧ Spells (Expression table) n.text n := by
  have alone : ∀ {n : Node}, n.isList = false → Spells (Unary table) n.text n →
      Spells (Unary table) n.operandText n ∧ Spells (Expression table) n.text n := by
    intro n single unary
    refine ⟨by simpa [Node.operandText_eq, single] using unary, fun p rest => ?_⟩
    obtain ⟨ts, q, derived, read⟩ := unary p rest
    exact ⟨ts, q, .single (.single derived), read⟩
  induction h with
  | leaf word free known bound writable =>
    exact alone rfl (leaf_spells word free known bound writable)
  | wrap operator inside ih => exact alone rfl (wrap_spells operator ih.1)
  | list connective children ih =>
    have expression := list_spells connective fun child member => (ih child member).1
    refine ⟨?_, expression⟩
    rw [Node.operandText_eq]
    exact group_spells expression

end WideColumn.Filter
