import WideColumn.Proofs.Filter.Outline
import WideColumn.Proofs.Filter.Quoting

/-! What can stand in the strings of a written filter. A tree is written token by token as its outline
is, with a string where the outline has an empty one. So values that are put into a filter decide
neither where its other tokens are nor what tree they are read as. -/
namespace WideColumn.Filter

open Text (isBlank)

/-- An argument that a token spells: a number has few enough digits, and a byte string is UTF-8. -/
structure Arg.IsReadable (arg : Arg) : Prop where
  short : arg.IsShort
  utf8 : ∀ b, arg.piece = .quoted b → Utf8.decode? b ≠ none

/-- A tree that is written as tokens, one for each name and each argument. It need not be one that
the grammar derives. -/
inductive Node.IsReadable : Node → Prop
  | leaf {name : String} {args : List Arg} (word : Word name.toList)
      (each : ∀ arg ∈ args, arg.IsReadable) : IsReadable (.leaf name args)
  | list {operator : String} {children : List Node} (word : Word operator.toList)
      (each : ∀ child ∈ children, IsReadable child) : IsReadable (.list operator children)
  | wrap {kind : String} {child : Node} (word : Word kind.toList) (inside : IsReadable child) :
      IsReadable (.wrap kind child)

theorem Arg.Writable.isReadable {arg : Arg} (writable : arg.Writable) : arg.IsReadable := by
  refine ⟨writable.isShort, fun b quoted => ?_⟩
  obtain ⟨text, rfl⟩ := writable.encoded b quoted
  simp [Utf8.decode?_encode]

/-- The trees that a parse can give are readable. -/
theorem Printable.isReadable {table : Table} {n : Node} (h : Printable table n) :
    n.IsReadable := by
  induction h with
  | leaf word free known bound writable =>
    exact .leaf (by rwa [String.toList_ofList]) fun arg member => (writable arg member).isReadable
  | list connective children ih =>
    exact .list (word_operator (by rcases connective with rfl | rfl <;> simp)) ih
  | wrap operator inside ih =>
    exact .wrap (word_operator (by rcases operator with rfl | rfl <;> simp)) ih

/-! Texts that are read alike. -/

/-- Whatever stands behind them, the tokens of the two texts have the same outlines. -/
def ReadAlike (cs cs' : List Char) : Prop :=
  ∀ p p' rest rest', ∃ ts ts' q q', Prefix p (cs ++ rest) ts q rest ∧
    Prefix p' (cs' ++ rest') ts' q' rest' ∧ ts.map Token.outline = ts'.map Token.outline

namespace ReadAlike

variable {cs cs' ds ds' : List Char}

theorem nil : ReadAlike [] [] := fun _ _ _ _ => ⟨[], [], _, _, .done, .done, rfl⟩

theorem append (first : ReadAlike cs cs') (last : ReadAlike ds ds') :
    ReadAlike (cs ++ ds) (cs' ++ ds') := by
  intro p p' rest rest'
  obtain ⟨ts, ts', q, q', read, read', same⟩ := first p p' (ds ++ rest) (ds' ++ rest')
  obtain ⟨us, us', r, r', more, more', same'⟩ := last q q' rest rest'
  rw [List.append_assoc, List.append_assoc]
  refine ⟨_, _, r, r', read.append more, read'.append more', ?_⟩
  rw [List.map_append, List.map_append, same, same']

/-- A text that is one token wherever it stands. -/
theorem one {kind : TokenKind} {text : List Char}
    (read : ∀ p rest, ∃ q, Prefix p (cs ++ rest) [⟨kind, text, p⟩] q rest) : ReadAlike cs cs := by
  intro p p' rest rest'
  obtain ⟨q, here⟩ := read p rest
  obtain ⟨q', there⟩ := read p' rest'
  refine ⟨_, _, q, q', here, there, ?_⟩
  cases kind <;> rfl

theorem leftParen : ReadAlike ['('] ['('] := one fun p rest => ⟨_, .leftParen p rest⟩

theorem rightParen : ReadAlike [')'] [')'] := one fun p rest => ⟨_, .rightParen p rest⟩

theorem comma : ReadAlike [',', ' '] [',', ' '] := one fun p rest => ⟨_, .comma p rest⟩

theorem blank : ReadAlike [' '] [' '] := by
  have space : isBlank ' ' = true := by decide +kernel
  exact fun _ _ _ _ => ⟨[], [], _, _, .blank space .done, .blank space .done, rfl⟩

theorem word {name : List Char} (word : Word name) : ReadAlike (name ++ [' ']) (name ++ [' ']) :=
  one fun p rest => by simpa using Prefix.wordBlank word p rest

theorem flatMap {α : Type} {as : List α} {f g : α → List Char}
    (each : ∀ a ∈ as, ReadAlike (f a) (g a)) : ReadAlike (as.flatMap f) (as.flatMap g) := by
  induction as with
  | nil => exact nil
  | cons a as ih =>
    obtain ⟨first, others⟩ := List.forall_mem_cons.mp each
    exact first.append (ih others)

end ReadAlike

/-! A tree and its outline. -/

namespace Arg

theorem IsReadable.outline {arg : Arg} (h : arg.IsReadable) : arg.outline.IsShort := by
  cases arg with
  | text | comparator => exact nofun
  | number | flag | op => exact h.short

theorem token_outline (arg : Arg) (p p' : Nat) :
    Token.outline ⟨arg.tokenKind, arg.piece.text, p⟩ =
      Token.outline ⟨arg.outline.tokenKind, arg.outline.piece.text, p'⟩ := by
  cases arg <;> rfl

/-- An argument in front of a comma or of the closing parenthesis. -/
theorem IsReadable.alike {arg : Arg} (h : arg.IsReadable) {cs cs' : List Char}
    (ends : ∀ rest, Ends (cs ++ rest)) (ends' : ∀ rest, Ends (cs' ++ rest))
    (more : ReadAlike cs cs') :
    ReadAlike (arg.piece.text ++ cs) (arg.outline.piece.text ++ cs') := by
  intro p p' rest rest'
  obtain ⟨q, first⟩ := h.short.isLexeme.before (ends rest) p
  obtain ⟨q', first'⟩ := h.outline.isLexeme.before (ends' rest') p'
  obtain ⟨ts, ts', r, r', read, read', same⟩ := more q q' rest rest'
  rw [List.append_assoc, List.append_assoc]
  refine ⟨_, _, r, r', first.append read, first'.append read', ?_⟩
  rw [List.map_append, List.map_append, List.map_singleton, arg.token_outline p p', same]
  rfl

end Arg

/-- What is written behind an argument: the ones after it, and the closing parenthesis. -/
def closingText (args : List Arg) : List Char :=
  args.flatMap (fun arg => [',', ' '] ++ arg.piece.text) ++ [')']

theorem ends_closingText (args : List Arg) (rest : List Char) : Ends (closingText args ++ rest) := by
  simpa [closingText] using ends_moreArguments args rest

theorem closingText_cons (arg : Arg) (args : List Arg) :
    closingText (arg :: args) = [',', ' '] ++ (arg.piece.text ++ closingText args) := by
  simp [closingText]

theorem readAlike_closing {args : List Arg} (each : ∀ arg ∈ args, arg.IsReadable) :
    ReadAlike (closingText args) (closingText (args.map Arg.outline)) := by
  induction args with
  | nil => exact .rightParen
  | cons arg args ih =>
    obtain ⟨first, others⟩ := List.forall_mem_cons.mp each
    rw [List.map_cons, closingText_cons, closingText_cons]
    exact .append .comma (first.alike (ends_closingText _) (ends_closingText _) (ih others))

theorem readAlike_arguments {args : List Arg} (each : ∀ arg ∈ args, arg.IsReadable) :
    ReadAlike (argumentsText args ++ [')']) (argumentsText (args.map Arg.outline) ++ [')']) := by
  cases args with
  | nil => exact .rightParen
  | cons arg args =>
    obtain ⟨first, others⟩ := List.forall_mem_cons.mp each
    rw [List.map_cons, argumentsText_cons, argumentsText_cons, List.append_assoc, List.append_assoc]
    exact first.alike (ends_closingText _) (ends_closingText _) (readAlike_closing others)

namespace Node

theorem outlineAll_eq (children : List Node) : outlineAll children = children.map outline := by
  induction children with
  | nil => rfl
  | cons child rest ih => rw [outlineAll, ih, List.map_cons]

theorem isList_outline (n : Node) : n.outline.isList = n.isList := by
  cases n <;> rfl

theorem operandText_alike {n : Node} (h : ReadAlike n.text n.outline.text) :
    ReadAlike n.operandText n.outline.operandText := by
  rw [operandText_eq, operandText_eq, isList_outline]
  split
  · exact (ReadAlike.leftParen.append h).append .rightParen
  · exact h

theorem IsReadable.alike {n : Node} (h : n.IsReadable) : ReadAlike n.text n.outline.text := by
  induction h with
  | leaf word each =>
    have front := (ReadAlike.word word).append .leftParen
    have whole := front.append (readAlike_arguments each)
    simpa [outline, leaf_text] using whole
  | @list operator children word each ih =>
    cases children with
    | nil => exact .nil
    | cons first more =>
      obtain ⟨here, others⟩ := List.forall_mem_cons.mp ih
      rw [outline, outlineAll_eq, List.map_cons, list_text, list_text, List.flatMap_map]
      refine (operandText_alike here).append (.flatMap fun child member => ?_)
      have between := ReadAlike.blank.append (.word word)
      have whole := between.append (operandText_alike (others child member))
      simpa using whole
  | wrap word inside ih =>
    have whole := (ReadAlike.word word).append (operandText_alike ih)
    simpa [outline, wrap_text] using whole

/-- The tokens of a written tree are those of its outline, but for the strings. -/
theorem IsReadable.scan_text {n : Node} (h : n.IsReadable) :
    ∃ ts ts', scan n.text = .ok ts ∧ scan n.outline.text = .ok ts' ∧
      ts.map Token.outline = ts'.map Token.outline := by
  obtain ⟨ts, ts', q, q', read, read', same⟩ := h.alike 0 0 [] []
  rw [List.append_nil] at read read'
  exact ⟨ts, ts', read.scan_eq, read'.scan_eq, same⟩

/-- Trees with one outline are written with the same tokens, but for the strings. -/
theorem scan_text_alike {n n' : Node} (h : n.IsReadable) (h' : n'.IsReadable)
    (same : n.outline = n'.outline) : ∃ ts ts', scan n.text = .ok ts ∧ scan n'.text = .ok ts' ∧
      ts.map Token.outline = ts'.map Token.outline := by
  obtain ⟨ts, us, scanned, outlined, alike⟩ := h.scan_text
  obtain ⟨ts', us', scanned', outlined', alike'⟩ := h'.scan_text
  rw [same, outlined'] at outlined
  cases outlined
  exact ⟨ts, ts', scanned, scanned', alike.trans alike'.symm⟩

end Node

/-- A byte string in quotes is one token between other texts, with the text that it spells as its
value. The texts on its two sides keep their tokens: the end of the first one is gone, and those of
the second one have moved. So the strings in a written filter decide about nothing else. Trees that
are the same but for their strings are written as tokens that are the same but for the strings, and
so is what the parser gives for them. -/
theorem strings_contained :
    (∀ {u v : List Char} {us vs : List Token} {b : Bytes} {value : List Char},
      Utf8.decode? b = some value → tokenize u = .ok us → u.getLast? ≠ some '\'' →
      tokenize v = .ok vs → v.head? ≠ some '\'' →
      tokenize (u ++ (Piece.quoted b).text ++ v) =
        .ok (us.dropLast ++ ⟨.string value, (Piece.quoted b).text, u.length⟩ ::
          vs.map (Token.relocate (u.length + (Piece.quoted b).text.length + ·)))) ∧
    (∀ {table : Table} {cs : List Char} {n : Node}, parse table cs = .ok (some n) →
      n.IsReadable) ∧
    ∀ {n n' : Node}, n.IsReadable → n'.IsReadable → n.outline = n'.outline →
      (∃ ts ts', tokenize n.text = .ok ts ∧ tokenize n'.text = .ok ts' ∧
        ts.map Token.outline = ts'.map Token.outline) ∧
      ∀ {table : Table} {m m' : Node}, parse table n.text = .ok (some m) →
        parse table n'.text = .ok (some m') → m.outline = m'.outline := by
  refine ⟨fun decoded tokens before tokens' behind => ?_,
    fun parsed => (printable_of_parse parsed).isReadable, fun readable readable' same => ?_⟩
  · rw [Piece.text, Utf8.decodeLossy_of_decode? decoded]
    exact tokenize_quoted tokens before tokens' behind _
  obtain ⟨ts, ts', scanned, scanned', alike⟩ := Node.scan_text_alike readable readable' same
  constructor
  · refine ⟨_, _, congrArg (Except.map _) scanned, congrArg (Except.map _) scanned', ?_⟩
    rw [List.map_append, List.map_append, alike]
    rfl
  · intro table m m' parsed parsed'
    have derived := (Grammar.parse_eq_some_iff scanned).mp parsed
    have derived' := (Grammar.parse_eq_some_iff scanned').mp parsed'
    exact derived.outline_unique derived' alike

/-- The string begins and ends with a quote, and would close itself and open another one behind an
`OR` if its quotes stood alone. -/
theorem strings_contained_quotes :
    let value := "') OR ('".toList
    let written := "''') OR ('''".toList
    tokenize ("SKIP PrefixFilter (".toList ++ (Piece.quoted (Utf8.encode value)).text ++
        ") ".toList) =
      .ok [⟨.name, "SKIP".toList, 0⟩, ⟨.name, "PrefixFilter".toList, 5⟩, ⟨.leftParen, ['('], 18⟩,
        ⟨.string value, written, 19⟩, ⟨.rightParen, [')'], 31⟩, Token.finish 33] ∧
      ∃ m m', parse Table.default "PrefixFilter ('a')".toList = .ok (some m) ∧ m.IsReadable ∧
        parse Table.default ("PrefixFilter (".toList ++ written ++ [')']) = .ok (some m') ∧
        m.outline = m'.outline := by
  intro value written
  constructor
  · have front : (tokenize "SKIP PrefixFilter (".toList).toOption = some [⟨.name, "SKIP".toList, 0⟩,
        ⟨.name, "PrefixFilter".toList, 5⟩, ⟨.leftParen, ['('], 18⟩, Token.finish 19] := by
      decide +kernel
    have back : (tokenize ") ".toList).toOption =
        some [⟨.rightParen, [')'], 0⟩, Token.finish 2] := by decide +kernel
    have whole := strings_contained.1 (Utf8.decode?_encode value) (toOption_eq_some front)
      (by decide) (toOption_eq_some back) (by decide)
    have text : (Piece.quoted (Utf8.encode value)).text = written := by decide +kernel
    rw [text] at whole ⊢
    exact whole
  · let n (cs : List Char) := Node.leaf "PrefixFilter" [.text (Utf8.encode cs)]
    have readable : ∀ cs, (n cs).IsReadable := by
      intro cs
      refine .leaf (.of_isAlpha (by decide)) (List.forall_mem_singleton.mpr ?_)
      exact Arg.Writable.text.isReadable
    have isTree : ∀ cs ∈ [['a'], value],
        (parse Table.default (n cs).text).toOption.join.isSome = true := by decide +kernel
    have exists_tree : ∀ cs ∈ [['a'], value],
        ∃ m, parse Table.default (n cs).text = .ok (some m) := by
      intro cs member
      obtain ⟨m, tree⟩ := Option.isSome_iff_exists.mp (isTree cs member)
      exact ⟨m, toOption_eq_some (Option.join_eq_some_iff.mp tree)⟩
    obtain ⟨m, parsed⟩ := exists_tree ['a'] (by simp)
    obtain ⟨m', parsed'⟩ := exists_tree value (by simp)
    have same := (strings_contained.2.2 (readable ['a']) (readable value) rfl).2 parsed parsed'
    have text : (n ['a']).text = "PrefixFilter ('a')".toList := by decide +kernel
    have text' : (n value).text = "PrefixFilter (".toList ++ written ++ [')'] := by decide +kernel
    exact ⟨m, m', text ▸ parsed, strings_contained.2.1 parsed, text' ▸ parsed', same⟩

end WideColumn.Filter
