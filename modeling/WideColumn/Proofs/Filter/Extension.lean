import WideColumn.Proofs.Filter.Depth
import WideColumn.Proofs.Filter.Joining
import WideColumn.Proofs.OrderedMap

/-! Filters that are added to a table. A parser looks at its table with the names of its tokens and
with nothing else, so a filter that an expression does not name changes neither its tree nor its
rejection. -/
namespace WideColumn.Filter

open Grammar

/-- Tables that have the same signatures, or none, for the name of every token. -/
def AgreeOn (ts : List Token) (table table' : Table) : Prop :=
  ∀ t ∈ ts, t.kind = .name →
    table.get? (String.ofList t.text) = table'.get? (String.ofList t.text)

/-- No token is the name of one of these filters. -/
def Unnamed (custom : List (String × List Signature)) (ts : List Token) : Prop :=
  ∀ t ∈ ts, t.kind = .name → String.ofList t.text ∉ custom.map Prod.fst

theorem Unnamed.agreeOn {custom : List (String × List Signature)} {ts : List Token}
    (unnamed : Unnamed custom ts) (table : Table) : AgreeOn ts (table.insertAll custom) table :=
  fun t member name => OrderedMap.get?_insertAll_of_notMem (unnamed t member name) table

variable {table table' : Table} {finish : Nat} {ts rest : List Token}

theorem AgreeOn.tail {t : Token} (agree : AgreeOn (t :: ts) table table') :
    AgreeOn ts table table' :=
  fun u member => agree u (.tail _ member)

/-- What a parser leaves has no other names than what it was given. -/
theorem AgreeOn.left {α : Type} {phrase : List Token → α → Prop}
    {parser : List Token → Except Failure (α × List Token)} {a : α}
    (agree : AgreeOn ts table table') (reads : Reads phrase parser)
    (read : parser ts = .ok (a, rest)) : AgreeOn rest table table' := by
  obtain ⟨used, rfl, -⟩ := reads read
  exact fun t member => agree t (List.mem_append_right _ member)

theorem call_agree {name : Token} (agree : AgreeOn (name :: ts) table table')
    (word : name.kind = .name) : call table finish name ts = call table' finish name ts := by
  unfold call
  dsimp only
  rw [agree name (.head _) word]

mutual

theorem disjunction_agree : ∀ depth {ts}, AgreeOn ts table table' →
    disjunction table finish depth ts = disjunction table' finish depth ts
  | 0, _, _ => rfl
  | depth + 1, ts, agree => by
    simp only [disjunction]
    refine sequence_congr _ (conjunction_agree depth agree) fun n rest read => ?_
    exact moreDisjuncts_agree depth (agree.left (conjunction_sound depth) read)

theorem moreDisjuncts_agree : ∀ depth {ts}, AgreeOn ts table table' →
    moreDisjuncts table finish depth ts = moreDisjuncts table' finish depth ts
  | 0, _, _ => rfl
  | depth + 1, ts, agree => by
    unfold moreDisjuncts
    split
    · next starts =>
      cases ts with
      | nil => cases starts
      | cons word ts =>
        refine sequence_congr _ (conjunction_agree depth agree.tail) fun n rest read => ?_
        exact moreDisjuncts_agree depth (agree.tail.left (conjunction_sound depth) read)
    · rfl

theorem conjunction_agree : ∀ depth {ts}, AgreeOn ts table table' →
    conjunction table finish depth ts = conjunction table' finish depth ts
  | 0, _, _ => rfl
  | depth + 1, ts, agree => by
    simp only [conjunction]
    refine sequence_congr _ (unary_agree depth agree) fun n rest read => ?_
    exact moreConjuncts_agree depth (agree.left (unary_sound depth) read)

theorem moreConjuncts_agree : ∀ depth {ts}, AgreeOn ts table table' →
    moreConjuncts table finish depth ts = moreConjuncts table' finish depth ts
  | 0, _, _ => rfl
  | depth + 1, ts, agree => by
    unfold moreConjuncts
    split
    · next starts =>
      cases ts with
      | nil => cases starts
      | cons word ts =>
        refine sequence_congr _ (unary_agree depth agree.tail) fun n rest read => ?_
        exact moreConjuncts_agree depth (agree.tail.left (unary_sound depth) read)
    · rfl

theorem unary_agree : ∀ depth {ts}, AgreeOn ts table table' →
    unary table finish depth ts = unary table' finish depth ts
  | 0, _, _ => rfl
  | depth + 1, [], _ => rfl
  | depth + 1, t :: ts, agree => by
    unfold unary
    dsimp only
    rw [unary_agree depth agree.tail, disjunction_agree depth agree.tail]
    -- Only a name in the place of a filter is looked up.
    split
    · rfl
    · split
      · rfl
      · next word => exact call_agree agree word
      · rfl

end

theorem parseTokens_agree (agree : AgreeOn ts table table') :
    parseTokens table finish ts = parseTokens table' finish ts := by
  unfold parseTokens
  rw [disjunction_agree _ agree]

theorem parse_agree {cs : List Char} (tokens : tokenize cs = .ok ts)
    (agree : AgreeOn ts table table') : parse table cs = parse table' cs := by
  obtain ⟨before, scanned, rfl⟩ := map_eq_ok_iff.mp tokens
  have front : AgreeOn before table table' :=
    fun t member => agree t (List.mem_append_left _ member)
  unfold parse
  rw [scanned]
  dsimp only
  rw [parseTokens_agree front]

/-- An expression has the same tree, or the same rejection at the same position, with all tables
that agree on the names in it. So it has with a table to which filters are added that it does not
name. -/
theorem parse_conservative {cs : List Char} {ts : List Token} (tokens : tokenize cs = .ok ts) :
    (∀ table table', AgreeOn ts table table' → parse table cs = parse table' cs) ∧
      ∀ table custom, Unnamed custom ts → parse (table.insertAll custom) cs = parse table cs :=
  ⟨fun _ _ agree => parse_agree tokens agree,
    fun table _ unnamed => parse_agree tokens (unnamed.agreeOn table)⟩

/-- The name of the new filter stands in a string alone, and that of the leaf is a part of it. -/
theorem parse_conservative_string :
    rejection? (parse (Table.extending [("Miles", [⟨[.text], none⟩])])
        "SKIP Mile('Miles')".toList) = some ⟨.unknownFilter "Mile", 5⟩ := by
  have tokens : (tokenize "SKIP Mile('Miles')".toList).toOption =
      some [⟨.name, "SKIP".toList, 0⟩, ⟨.name, "Mile".toList, 5⟩, ⟨.leftParen, ['('], 9⟩,
        ⟨.string "Miles".toList, "'Miles'".toList, 10⟩, ⟨.rightParen, [')'], 17⟩,
        Token.finish 18] := by
    decide +kernel
  have alike := (parse_conservative (toOption_eq_some tokens)).2 Table.default
    [("Miles", [⟨[.text], none⟩])] (by unfold Unnamed; decide +kernel)
  rw [Table.extending_eq, alike]
  decide +kernel

end WideColumn.Filter
