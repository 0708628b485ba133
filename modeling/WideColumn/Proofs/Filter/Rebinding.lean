import WideColumn.Filter.Printer
import WideColumn.Proofs.Bytes.Utf8
import WideColumn.Proofs.Filter.Matching

/-! Arguments that are written and read again. Writing brings the type of a comparator to lower case
and drops the sign of a zero, so the new tokens need not be the old ones; but no signature can tell
them apart, and the first one that matches takes them as the same arguments. -/
namespace WideColumn.Filter

/-- The kind of the token that an argument is written as. -/
def Arg.tokenKind : Arg → TokenKind
  | text value => .string (Utf8.decodeLossy value)
  | number value => .number value
  | flag _ => .name
  | op value => .op value
  | comparator value => .string (Utf8.decodeLossy value.toBytes)

/-- A token is what an argument is written as. -/
structure Writes (arg : Arg) (t : Token) : Prop where
  kind : t.kind = arg.tokenKind
  text : t.text = arg.piece.text

/-- Two arguments, or their absence, are the same operator if one of them is one. -/
def SameOp (first second : Option Arg) : Prop :=
  ∀ op, first = some (.op op) ↔ second = some (.op op)

/-- No kind of argument tells two tokens apart. -/
inductive Alike : Token → Token → Prop
  | same {t t' : Token} (kind : t.kind = t'.kind)
      (word : t.kind = .name → flag? t.text = flag? t'.text) : Alike t t'
  | comparators {t t' : Token} {value value' : List Char} (left : t.kind = .string value)
      (right : t'.kind = .string value')
      (spell : ∀ previous c,
        SpellsComparator previous value c ↔ SpellsComparator previous value' c) :
      Alike t t'

theorem spellsComparator_iff {previous : Option Arg} {type value : List Char} {c : Comparator}
    (first : ':' ∉ type) : SpellsComparator previous (type ++ ':' :: value) c ↔
      ∃ kind, ComparatorKind.ofName? (lowerCase type) = some kind ∧
        (kind.isPattern = true → previous = some (.op .equal) ∨ previous = some (.op .notEqual)) ∧
        c = ⟨kind, Utf8.encode value⟩ := by
  constructor
  · generalize same : type ++ ':' :: value = cs
    rintro ⟨first', known, tested⟩
    have split := (splitColon_append first' _).symm.trans (congrArg splitColon same.symm)
    rw [splitColon_append first] at split
    cases split
    exact ⟨_, known, tested, rfl⟩
  · rintro ⟨kind, known, tested, rfl⟩
    exact .intro first known tested

theorem SpellsComparator.sameOp {previous previous' : Option Arg} {cs : List Char} {c : Comparator}
    (h : SpellsComparator previous cs c) (same : SameOp previous previous') :
    SpellsComparator previous' cs c := by
  cases h with
  | intro first known tested =>
    exact .intro first known fun pattern => (tested pattern).imp (same _).mp (same _).mp

/-- The written type of a comparator is its name, which is in lower case. -/
theorem ComparatorKind.name_spells (kind : ComparatorKind) :
    ':' ∉ kind.name ∧ ComparatorKind.ofName? (lowerCase kind.name) = some kind := by
  cases kind <;> decide

theorem Alike.symm {t t' : Token} (h : Alike t t') : Alike t' t := by
  cases h with
  | same kind word => exact .same kind.symm fun name => (word (kind.trans name)).symm
  | comparators left right spell => exact .comparators right left fun p c => (spell p c).symm

theorem Alike.fits {previous previous' : Option Arg} {kind : ArgKind} {t t' : Token} {arg : Arg}
    (alike : Alike t t') (same : SameOp previous previous') (fits : Fits previous kind t arg) :
    ∃ arg', Fits previous' kind t' arg' ∧ SameOp (some arg) (some arg') := by
  cases alike with
  | same equal word =>
    refine ⟨arg, ?_, fun _ => Iff.rfl⟩
    cases fits with
    | text literal => exact .text (equal ▸ literal)
    | number literal natural => exact .number (equal ▸ literal) natural
    | flag name truth => exact .flag (equal ▸ name) (word name ▸ truth)
    | op symbol => exact .op (equal ▸ symbol)
    | comparator literal spelled => exact .comparator (equal ▸ literal) (spelled.sameOp same)
  | comparators left right spell =>
    cases fits with
    | text => exact ⟨_, .text right, fun op => by simp⟩
    | number literal => simp [left] at literal
    | flag name => simp [left] at name
    | op symbol => simp [left] at symbol
    | comparator literal spelled =>
      cases left.symm.trans literal
      exact ⟨_, .comparator right ((spell _ _).mp (spelled.sameOp same)), fun op => by simp⟩

theorem Binds.alike {previous previous' : Option Arg} {kinds : List ArgKind} {ts ts' : List Token}
    {args : List Arg} (bound : Binds previous kinds ts args) (alike : List.Forall₂ Alike ts ts')
    (same : SameOp previous previous') : ∃ args', Binds previous' kinds ts' args' := by
  induction bound generalizing previous' ts' with
  | nil =>
    cases alike
    exact ⟨[], .nil⟩
  | cons fits _ ih =>
    cases alike with
    | cons head tail =>
      obtain ⟨arg', fits', same'⟩ := head.fits same fits
      obtain ⟨args', bound'⟩ := ih tail same'
      exact ⟨arg' :: args', .cons fits' bound'⟩

theorem Signature.Refuses.alike {s : Signature} {ts ts' : List Token} (refused : s.Refuses ts)
    (alike : List.Forall₂ Alike ts ts') : s.Refuses ts' := by
  refine ⟨refused.1, fun ⟨args, kinds, allowed, bound⟩ => refused.2 ?_⟩
  have back : List.Forall₂ Alike ts' ts := (alike.imp fun _ _ h => h.symm).flip
  obtain ⟨args', bound'⟩ := bound.alike back fun _ => Iff.rfl
  exact ⟨args', kinds, allowed, bound'⟩

/-- An argument is read again as itself, from a token like the one that it was read from. -/
theorem Fits.writes {previous : Option Arg} {kind : ArgKind} {t t' : Token} {arg : Arg}
    (fits : Fits previous kind t arg) (writes : Writes arg t') :
    Fits previous kind t' arg ∧ Alike t t' := by
  obtain ⟨equal, text⟩ := writes
  cases fits with
  | @text _ value literal =>
    have literal' : t'.kind = .string value := by rw [equal, Arg.tokenKind, Utf8.decodeLossy_encode]
    exact ⟨.text literal', .same (literal.trans literal'.symm) (by simp [literal])⟩
  | number literal natural =>
    exact ⟨.number equal natural, .same (literal.trans equal.symm) (by simp [literal])⟩
  | @flag _ value word truth =>
    -- The word may have been in another case: the texts differ, the truth values do not.
    have truth' : flag? t'.text = some value := by
      rw [text]
      cases value <;> decide
    exact ⟨.flag equal truth', .same (word.trans equal.symm) fun _ => truth.trans truth'.symm⟩
  | op symbol => exact ⟨.op equal, .same (symbol.trans equal.symm) (by simp [symbol])⟩
  | comparator literal spelled =>
    cases spelled with
    | @intro type value kind first known tested =>
      obtain ⟨first', known'⟩ := kind.name_spells
      have literal' : t'.kind = .string (kind.name ++ ':' :: value) := by
        rw [equal, Arg.tokenKind, Comparator.toBytes, ← Utf8.encode_append, Utf8.decodeLossy_encode,
          List.append_assoc]
        rfl
      refine ⟨.comparator literal' (.intro first' known' tested), .comparators literal literal' ?_⟩
      intro previous c
      rw [spellsComparator_iff first, spellsComparator_iff first', known, known']

/-- Tokens that arguments are written as, one each. -/
abbrev WritesAll : List Arg → List Token → Prop := List.Forall₂ Writes

theorem Binds.writes {previous : Option Arg} {kinds : List ArgKind} {ts ts' : List Token}
    {args : List Arg} (bound : Binds previous kinds ts args) (writes : WritesAll args ts') :
    Binds previous kinds ts' args ∧ List.Forall₂ Alike ts ts' := by
  induction bound generalizing ts' with
  | nil =>
    cases writes
    exact ⟨.nil, .nil⟩
  | cons fits _ ih =>
    cases writes with
    | cons head tail =>
      obtain ⟨fits', alike⟩ := fits.writes head
      obtain ⟨bound', others⟩ := ih tail
      exact ⟨.cons fits' bound', .cons alike others⟩

theorem FirstMatch.binds {signatures : List Signature} {ts : List Token} {args : List Arg}
    (h : FirstMatch signatures ts args) : ∃ kinds, Binds none kinds ts args := by
  induction h with
  | here taken =>
    obtain ⟨kinds, -, bound⟩ := taken
    exact ⟨kinds, bound⟩
  | later _ _ ih => exact ih

/-- What the arguments of a leaf are written as is bound to the same signature, as themselves. -/
theorem FirstMatch.writes {signatures : List Signature} {ts ts' : List Token} {args : List Arg}
    (h : FirstMatch signatures ts args) (writes : WritesAll args ts') :
    FirstMatch signatures ts' args := by
  induction h with
  | here taken =>
    obtain ⟨kinds, allowed, bound⟩ := taken
    exact .here ⟨kinds, allowed, (bound.writes writes).1⟩
  | later refused rest ih =>
    obtain ⟨kinds, bound⟩ := rest.binds
    exact .later (refused.alike (bound.writes writes).2) (ih writes)

end WideColumn.Filter
