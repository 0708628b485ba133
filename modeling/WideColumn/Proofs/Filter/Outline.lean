import WideColumn.Proofs.Filter.Completeness
import WideColumn.Proofs.Filter.WellFormed

/-! The outline of a filter: what is left of it when its strings are empty. The grammar keeps
outlines, over a table that takes any string for a comparator. So trees of tokens that are the same
but for their strings have one outline, whatever the strings spell. -/
namespace WideColumn.Filter

/-- A comparator is written as a string, and so is a byte string. -/
def Arg.outline : Arg → Arg
  | text _ | comparator _ => text []
  | arg => arg

mutual
def Node.outline : Node → Node
  | leaf name args => leaf name (args.map Arg.outline)
  | list operator children => list operator (outlineAll children)
  | wrap kind child => wrap kind child.outline

def Node.outlineAll : List Node → List Node
  | [] => []
  | child :: rest => child.outline :: outlineAll rest
end

def TokenKind.outline : TokenKind → TokenKind
  | string _ => string []
  | kind => kind

/-- A token without its position, and without the contents of a string. -/
def Token.outline (t : Token) : Token :=
  match t.kind with
  | .string _ => ⟨.string [], [], 0⟩
  | kind => ⟨kind, t.text, 0⟩

theorem Token.outline_kind {t : Token} {kind : TokenKind} (same : t.kind = kind) :
    t.outline.kind = kind.outline := by
  subst same
  unfold outline
  cases t.kind <;> rfl

theorem Token.outline_text {t : Token} (word : t.kind = .name) : t.outline.text = t.text := by
  unfold outline
  rw [word]

def ArgKind.outline : ArgKind → ArgKind
  | comparator => text
  | kind => kind

def Signature.outline (s : Signature) : Signature :=
  ⟨s.fixed.map ArgKind.outline, s.rest.map fun r => { r with kind := r.kind.outline }⟩

def Table.outline (table : Table) : Table := table.mapValues (List.map Signature.outline)

/-! The arguments of a leaf. -/

section

variable {previous previous' : Option Arg} {kind kind' : ArgKind} {kinds kinds' : List ArgKind}
  {t : Token} {ts : List Token} {arg arg' : Arg} {args args' : List Arg} {s s' : Signature}

theorem Fits.outline (fits : Fits previous kind t arg) :
    Fits previous' kind.outline t.outline arg.outline := by
  cases fits with
  | text literal | comparator literal => exact .text (Token.outline_kind literal)
  | number literal natural => exact .number (Token.outline_kind literal) natural
  | flag word truth =>
    exact .flag (Token.outline_kind word) ((congrArg flag? (Token.outline_text word)).trans truth)
  | op symbol => exact .op (Token.outline_kind symbol)

theorem Binds.outline (bound : Binds previous kinds ts args) :
    Binds previous' (kinds.map ArgKind.outline) (ts.map Token.outline) (args.map Arg.outline) := by
  induction bound generalizing previous' with
  | nil => exact .nil
  | cons fits _ ih => exact .cons fits.outline ih

/-- Where no comparator is asked for, a token is one argument at most. -/
theorem Fits.unique (fits : Fits previous kind t arg) (fits' : Fits previous' kind' t arg')
    (plain : kind ≠ .comparator) (plain' : kind' ≠ .comparator) : arg = arg' := by
  cases fits <;> cases fits' <;> simp_all

theorem Binds.unique (bound : Binds previous kinds ts args) (bound' : Binds previous' kinds' ts args')
    (plain : .comparator ∉ kinds) (plain' : .comparator ∉ kinds') : args = args' := by
  induction bound generalizing previous' kinds' args' with
  | nil =>
    cases bound'
    rfl
  | cons fits _ ih =>
    cases bound' with
    | cons fits' more' =>
      simp only [List.mem_cons, not_or] at plain plain'
      obtain rfl := fits.unique fits' (Ne.symm plain.1) (Ne.symm plain'.1)
      rw [ih more' plain.2 plain'.2]

theorem ArgKind.outline_ne_comparator (kind : ArgKind) : kind.outline ≠ .comparator := by
  cases kind <;> simp [outline]

namespace Signature

theorem Allows.outline (allowed : s.Allows kinds) : s.outline.Allows (kinds.map ArgKind.outline) := by
  cases allowed with
  | exact alone => exact .exact (by rw [Signature.outline, alone, Option.map_none])
  | @repeated r n repeats enough =>
    have repeats' : s.outline.rest = some { r with kind := r.kind.outline } := by
      rw [Signature.outline, repeats, Option.map_some]
    rw [List.map_append, List.map_replicate]
    exact .repeated n repeats' enough

theorem Allows.plain (allowed : s.outline.Allows kinds) : .comparator ∉ kinds := by
  have fixed : .comparator ∉ s.outline.fixed := by
    intro member
    obtain ⟨kind, -, same⟩ := List.mem_map.mp member
    exact kind.outline_ne_comparator same
  cases allowed with
  | exact => exact fixed
  | repeated n repeats =>
    obtain ⟨r, -, rfl⟩ := Option.map_eq_some_iff.mp repeats
    intro member
    rcases List.mem_append.mp member with front | last
    · exact fixed front
    · exact r.kind.outline_ne_comparator (List.eq_of_mem_replicate last).symm

theorem Matches.outline (taken : s.Matches ts args) :
    s.outline.Matches (ts.map Token.outline) (args.map Arg.outline) := by
  obtain ⟨kinds, allowed, bound⟩ := taken
  exact ⟨_, allowed.outline, bound.outline⟩

theorem Matches.unique (taken : s.outline.Matches ts args) (taken' : s'.outline.Matches ts args') :
    args = args' := by
  obtain ⟨kinds, allowed, bound⟩ := taken
  obtain ⟨kinds', allowed', bound'⟩ := taken'
  exact bound.unique bound' allowed.plain allowed'.plain

theorem endsNameless_outline (s : Signature) : s.outline.endsNameless = s.endsNameless := by
  have last : ∀ kind : ArgKind, kind.outline = .other "" ↔ kind = .other "" := by
    intro kind
    cases kind <;> simp [ArgKind.outline]
  simp [endsNameless, Signature.outline, last]

end Signature

/-- An earlier signature may take the outlines of arguments that it refuses, but it takes them for
nothing else. -/
theorem FirstMatch.outline {signatures : List Signature} (h : FirstMatch signatures ts args) :
    FirstMatch (signatures.map Signature.outline) (ts.map Token.outline) (args.map Arg.outline) := by
  induction h with
  | here taken => exact .here taken.outline
  | @later s _ ts args refused rest ih =>
    by_cases early : ∃ args', s.outline.Matches (ts.map Token.outline) args'
    · obtain ⟨args', taken⟩ := early
      obtain ⟨s', -, taken'⟩ := rest.taken
      exact .here (taken.unique taken'.outline ▸ taken)
    · exact .later ⟨s.endsNameless_outline.trans refused.1, early⟩ ih

end

/-! Trees. -/

@[simp] theorem outline_isWord (word : String) (t : Token) :
    t.outline.isWord word = t.isWord word := by
  unfold Token.outline Token.isWord
  split
  · next string => simp [string]
  · rfl

namespace Grammar

variable {table : Table} {t : Token} {ts raw : List Token} {n : Node} {ns : List Node}

theorem Argument.outline (h : Argument t) : Argument t.outline := by
  cases h with
  | string literal => exact .string (Token.outline_kind literal)
  | number literal => exact .number (Token.outline_kind literal)
  | op symbol => exact .op (Token.outline_kind symbol)
  | truth word known =>
    exact .truth (Token.outline_kind word) ((congrArg flag? (Token.outline_text word)).trans known)

theorem ArgumentTail.outline (h : ArgumentTail ts raw) :
    ArgumentTail (ts.map Token.outline) (raw.map Token.outline) := by
  induction h with
  | nil => exact .nil
  | cons separator head _ ih => exact .cons (Token.outline_kind separator) head.outline ih

theorem Arguments.outline (h : Arguments ts raw) :
    Arguments (ts.map Token.outline) (raw.map Token.outline) := by
  cases h with
  | none => exact .none
  | some head tail => exact .some head.outline tail.outline

theorem outlineAll_ne_nil (several : ns ≠ []) : Node.outlineAll ns ≠ [] := by
  obtain ⟨n, ns, rfl⟩ := List.exists_cons_of_ne_nil several
  exact List.cons_ne_nil _ _

theorem Call.outline (h : Call table ts n) :
    Call table.outline (ts.map Token.outline) n.outline := by
  cases h with
  | @intro name opening closing ts raw signatures args word free known opens list closes bound =>
    have text := Token.outline_text word
    have known' : table.outline.get? (String.ofList name.text) =
        some (signatures.map Signature.outline) := by
      rw [Table.outline, OrderedMap.get?_mapValues, known, Option.map_some]
    rw [← text] at free known'
    rw [Node.outline, ← text, List.map_append, List.map_cons, List.map_cons]
    exact .intro (Token.outline_kind word) free known' (Token.outline_kind opens) list.outline
      (Token.outline_kind closes) bound.outline

mutual

theorem Expression.outline {ts : List Token} {n : Node} : Expression table ts n →
    Expression table.outline (ts.map Token.outline) n.outline
  | .single only => .single only.outline
  | .chain first more several => by
    rw [List.map_append]
    exact .chain first.outline more.outline (outlineAll_ne_nil several)

theorem Disjuncts.outline {ts : List Token} {ns : List Node} : Disjuncts table ts ns →
    Disjuncts table.outline (ts.map Token.outline) (Node.outlineAll ns)
  | .nil => .nil
  | .cons connective head tail => by
    rw [List.map_append]
    exact .cons (by simpa using connective) head.outline tail.outline

theorem Conjunction.outline {ts : List Token} {n : Node} : Conjunction table ts n →
    Conjunction table.outline (ts.map Token.outline) n.outline
  | .single only => .single only.outline
  | .chain first more several => by
    rw [List.map_append]
    exact .chain first.outline more.outline (outlineAll_ne_nil several)

theorem Conjuncts.outline {ts : List Token} {ns : List Node} : Conjuncts table ts ns →
    Conjuncts table.outline (ts.map Token.outline) (Node.outlineAll ns)
  | .nil => .nil
  | .cons connective head tail => by
    rw [List.map_append]
    exact .cons (by simpa using connective) head.outline tail.outline

theorem Unary.outline {ts : List Token} {n : Node} : Unary table ts n →
    Unary table.outline (ts.map Token.outline) n.outline
  | .skip operator operand => .skip (by simpa using operator) operand.outline
  | .while operator operand => .while (by simpa using operator) operand.outline
  | .group opens inside closes => by
    rw [List.map_append]
    exact .group (Token.outline_kind opens) inside.outline (Token.outline_kind closes)
  | .call leaf => .call leaf.outline

end

/-- Tokens with one outline have trees with one outline. -/
theorem Expression.outline_unique {ts' : List Token} {n' : Node} (h : Expression table ts n)
    (h' : Expression table ts' n') (same : ts.map Token.outline = ts'.map Token.outline) :
    n.outline = n'.outline := by
  have read : parseTokens table.outline 0 _ = .ok n.outline := parseTokens_iff.mpr h.outline
  have read' : parseTokens table.outline 0 _ = .ok n'.outline := parseTokens_iff.mpr h'.outline
  rw [same] at read
  exact Except.ok.inj (read.symm.trans read')

end Grammar
end WideColumn.Filter
