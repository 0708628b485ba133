import WideColumn.Proofs.Filter.RoundTrip
import WideColumn.Proofs.OrderedMap

/-! The trees that parsing gives, said without parsing. A leaf has arguments that one of its
signatures allows, each of them one that a text can spell where it stands. Over the default table
each such tree is given by some text, because no two signatures of a filter take equally many
arguments. -/
namespace WideColumn.Filter

namespace Arg

def kind : Arg → ArgKind
  | text _ => .text
  | number _ => .number
  | flag _ => .flag
  | op _ => .op
  | comparator _ => .comparator

/-- An argument as it may stand directly behind another one: byte strings are UTF-8, numbers are not
below zero, and a pattern comparator stands behind a test for equality. -/
inductive Follows (previous : Option Arg) : Arg → Prop
  | text (value : List Char) : Follows previous (.text (Utf8.encode value))
  | number (value : Nat) : Follows previous (.number value)
  | flag (value : Bool) : Follows previous (.flag value)
  | op (value : CompareOp) : Follows previous (.op value)
  | comparator {kind : ComparatorKind} (value : List Char) (tested : kind.isPattern = true →
      previous = some (.op .equal) ∨ previous = some (.op .notEqual)) :
      Follows previous (.comparator ⟨kind, Utf8.encode value⟩)

/-- Arguments one after the other. -/
inductive Sequence : Option Arg → List Arg → Prop
  | nil {previous : Option Arg} : Sequence previous []
  | cons {previous : Option Arg} {arg : Arg} {rest : List Arg} (follows : arg.Follows previous)
      (more : Sequence (some arg) rest) : Sequence previous (arg :: rest)

end Arg

inductive WellFormed (table : Table) : Node → Prop
  | leaf {name : String} {signatures : List Signature} {s : Signature} {args : List Arg}
      (free : name ∉ keywords) (known : table.get? name = some signatures)
      (member : s ∈ signatures) (allowed : s.Allows (args.map Arg.kind))
      (sequence : Arg.Sequence none args) : WellFormed table (.leaf name args)
  | list {operator : String} {children : List Node}
      (connective : operator = "AND" ∨ operator = "OR") (several : 2 ≤ children.length)
      (each : ∀ child ∈ children, WellFormed table child) :
      WellFormed table (.list operator children)
  | wrap {kind : String} {child : Node} (operator : kind = "SKIP" ∨ kind = "WHILE")
      (inside : WellFormed table child) : WellFormed table (.wrap kind child)

/-- A tree all of whose arguments have a property. -/
inductive Node.AllArgs (holds : Arg → Prop) : Node → Prop
  | leaf {name : String} {args : List Arg} (each : ∀ arg ∈ args, holds arg) :
      AllArgs holds (.leaf name args)
  | list {operator : String} {children : List Node}
      (each : ∀ child ∈ children, AllArgs holds child) : AllArgs holds (.list operator children)
  | wrap {kind : String} {child : Node} (inside : AllArgs holds child) :
      AllArgs holds (.wrap kind child)

variable {table : Table} {previous : Option Arg}

/-! Every tree that parsing gives is well-formed. -/

theorem Fits.follows {kind : ArgKind} {t : Token} {arg : Arg} (fits : Fits previous kind t arg) :
    kind = arg.kind ∧ arg.Follows previous := by
  cases fits with
  | @text _ value => exact ⟨rfl, .text value⟩
  | number _ natural =>
    obtain ⟨n, rfl⟩ := Int.eq_ofNat_of_zero_le natural
    exact ⟨rfl, .number n⟩
  | @flag _ value => exact ⟨rfl, .flag value⟩
  | @op _ value => exact ⟨rfl, .op value⟩
  | comparator _ spelled =>
    cases spelled with
    | @intro _ value _ _ _ tested => exact ⟨rfl, .comparator value tested⟩

theorem Binds.sequence {kinds : List ArgKind} {ts : List Token} {args : List Arg}
    (bound : Binds previous kinds ts args) :
    kinds = args.map Arg.kind ∧ Arg.Sequence previous args := by
  induction bound with
  | nil => exact ⟨rfl, .nil⟩
  | cons fits _ ih =>
    obtain ⟨rfl, follows⟩ := fits.follows
    obtain ⟨rfl, more⟩ := ih
    exact ⟨rfl, .cons follows more⟩

theorem FirstMatch.taken {signatures : List Signature} {ts : List Token} {args : List Arg}
    (h : FirstMatch signatures ts args) : ∃ s ∈ signatures, s.Matches ts args := by
  induction h with
  | here taken => exact ⟨_, .head _, taken⟩
  | later _ _ ih =>
    obtain ⟨s, member, taken⟩ := ih
    exact ⟨s, .tail _ member, taken⟩

theorem Printable.wellFormed {n : Node} (h : Printable table n) : WellFormed table n := by
  induction h with
  | leaf word free known bound writable =>
    obtain ⟨s, member, kinds, allowed, bound⟩ := bound.taken
    obtain ⟨rfl, sequence⟩ := bound.sequence
    exact .leaf free known member allowed sequence
  | list connective children ih => exact .list connective (by simp) ih
  | wrap operator inside ih => exact .wrap operator ih

theorem Printable.isShort {n : Node} (h : Printable table n) : n.AllArgs Arg.IsShort := by
  induction h with
  | leaf word free known bound writable =>
    exact .leaf fun arg member => (writable arg member).isShort
  | list connective children ih => exact .list ih
  | wrap operator inside ih => exact .wrap ih

/-! Every well-formed tree can be written, if its table tells signatures apart by their lengths. -/

/-- The token that an argument is written as. -/
def Arg.token (arg : Arg) : Token := ⟨arg.tokenKind, arg.piece.text, 0⟩

theorem Arg.Follows.fits {arg : Arg} (h : arg.Follows previous) :
    Fits previous arg.kind arg.token arg := by
  cases h with
  | text value => exact .text (congrArg TokenKind.string (Utf8.decodeLossy_encode value))
  | number value => exact .number rfl (Int.natCast_nonneg value)
  | flag value =>
    refine .flag rfl ?_
    cases value <;> decide
  | op value => exact .op rfl
  | @comparator kind value tested =>
    obtain ⟨first, known⟩ := kind.name_spells
    have written : Utf8.decodeLossy (Comparator.toBytes ⟨kind, Utf8.encode value⟩) =
        kind.name ++ ':' :: value := by
      rw [Comparator.toBytes, ← Utf8.encode_append, Utf8.decodeLossy_encode, List.append_assoc]
      rfl
    exact .comparator (congrArg TokenKind.string written) (.intro first known tested)

theorem Arg.Sequence.binds {args : List Arg} (h : Arg.Sequence previous args) :
    Binds previous (args.map Arg.kind) (args.map Arg.token) args := by
  induction h with
  | nil => exact .nil
  | cons follows _ ih => exact .cons follows.fits ih

theorem Arg.Sequence.writable {args : List Arg} (h : Arg.Sequence previous args)
    (short : ∀ arg ∈ args, arg.IsShort) : ∀ arg ∈ args, arg.Writable := by
  induction h with
  | nil => exact List.forall_mem_nil _
  | cons follows _ ih =>
    obtain ⟨first, others⟩ := List.forall_mem_cons.mp short
    refine List.forall_mem_cons.mpr ⟨?_, ih others⟩
    cases follows with
    | text value => exact .text
    | number value => exact .number (first value rfl)
    | flag value => exact .flag
    | op value => exact .op
    | comparator value tested => exact .comparator

/-- Two signatures that no arguments match both, because they take different numbers of them. -/
structure Signature.Apart (s s' : Signature) : Prop where
  alone : s.rest = none
  alone' : s'.rest = none
  lengths : s.fixed.length ≠ s'.fixed.length

instance (s s' : Signature) : Decidable (s.Apart s') :=
  decidable_of_iff (s.rest = none ∧ s'.rest = none ∧ s.fixed.length ≠ s'.fixed.length)
    ⟨fun ⟨alone, alone', lengths⟩ => ⟨alone, alone', lengths⟩,
      fun h => ⟨h.alone, h.alone', h.lengths⟩⟩

theorem Signature.Matches.length_eq {s : Signature} {ts : List Token} {args : List Arg}
    (h : s.Matches ts args) (alone : s.rest = none) : s.fixed.length = ts.length := by
  obtain ⟨kinds, allowed, bound⟩ := h
  cases allowed with
  | exact => exact bound.length_eq
  | repeated n repeats => cases alone.symm.trans repeats

/-- Among signatures that are apart, the one that matches is the first one that does. -/
theorem Signature.Matches.firstMatch {signatures : List Signature} {s : Signature}
    {ts : List Token} {args : List Arg} (h : s.Matches ts args) (member : s ∈ signatures)
    (apart : signatures.Pairwise Signature.Apart)
    (named : ∀ s ∈ signatures, s.endsNameless = false) : FirstMatch signatures ts args := by
  induction signatures with
  | nil => cases member
  | cons first rest ih =>
    obtain ⟨others, apart⟩ := List.pairwise_cons.mp apart
    obtain ⟨ends, named⟩ := List.forall_mem_cons.mp named
    rcases List.mem_cons.mp member with rfl | later
    · exact .here h
    · obtain ⟨alone, alone', lengths⟩ := others s later
      refine .later ⟨ends, ?_⟩ (ih later apart named)
      rintro ⟨args', taken⟩
      exact lengths ((taken.length_eq alone).trans (h.length_eq alone').symm)

/-- A table in which every filter can be called by its name and by each of its signatures. -/
structure Table.IsDistinct (table : Table) : Prop where
  words : ∀ {name signatures}, table.get? name = some signatures → Word name.toList
  apart : ∀ {name signatures}, table.get? name = some signatures →
    signatures.Pairwise Signature.Apart
  named : ∀ {name signatures}, table.get? name = some signatures →
    ∀ s ∈ signatures, s.endsNameless = false

theorem WellFormed.printable {n : Node} (h : WellFormed table n) (distinct : table.IsDistinct)
    (short : n.AllArgs Arg.IsShort) : Printable table n := by
  induction h with
  | @leaf name signatures s args free known member allowed sequence =>
    cases short with
    | leaf each =>
      have taken : s.Matches (args.map Arg.token) args := ⟨_, allowed, sequence.binds⟩
      have bound := taken.firstMatch member (distinct.apart known) (distinct.named known)
      have same : String.ofList name.toList = name := String.ofList_toList
      rw [← same] at free known ⊢
      exact .leaf (distinct.words (same ▸ known)) free known bound (sequence.writable each)
  | @list operator children connective several each ih =>
    cases short with
    | list shorts =>
      match children, several with
      | first :: second :: more, _ =>
        exact .list connective fun child member => ih child member (shorts child member)
  | wrap operator inside ih =>
    cases short with
    | wrap short => exact .wrap operator (ih short)

theorem Table.default_isDistinct : Table.default.IsDistinct := by
  have alphabetic : ∀ e ∈ Table.default.entries,
      e.1.toList ≠ [] ∧ e.1.toList.all Char.isAlpha = true := by decide +kernel
  have apart : ∀ e ∈ Table.default.entries, e.2.Pairwise Signature.Apart := by decide +kernel
  have named : ∀ e ∈ Table.default.entries, ∀ s ∈ e.2, s.endsNameless = false := by decide +kernel
  refine ⟨fun {name _} known => ?_, fun known => apart _ (OrderedMap.mem_of_get? known),
    fun known => named _ (OrderedMap.mem_of_get? known)⟩
  obtain ⟨visible, letters⟩ := alphabetic _ (OrderedMap.mem_of_get? known)
  obtain ⟨c, body, same⟩ := List.exists_cons_of_ne_nil visible
  rw [same] at letters ⊢
  exact .of_isAlpha letters

/-- What parsing gives over a table is well-formed, with numbers that a text can have; and over the
default table every such tree is what parsing gives for its written form. -/
theorem parse_image :
    (∀ {table : Table} {cs : List Char} {n : Node}, parse table cs = .ok (some n) →
      WellFormed table n ∧ n.AllArgs Arg.IsShort) ∧
    ∀ {n : Node}, WellFormed Table.default n → n.AllArgs Arg.IsShort →
      parse Table.default n.text = .ok (some n) := by
  refine ⟨fun parsed => ?_, fun wellFormed short => ?_⟩
  · have printable := printable_of_parse parsed
    exact ⟨printable.wellFormed, printable.isShort⟩
  · exact (wellFormed.printable Table.default_isDistinct short).parse_text

/-- A list in a list with the same connective keeps its parentheses, and marks and words inside a
string do not matter. -/
theorem parse_image_nested :
    let inner := Node.list "AND" [.leaf "PrefixFilter" [.text (Utf8.encode "') AND (SKIP".toList)],
      .leaf "PageFilter" [.number 10]]
    let pattern := Arg.comparator ⟨.regexString, Utf8.encode "a:b".toList⟩
    let n := Node.list "AND" [inner, .wrap "WHILE" (.leaf "ValueFilter" [.op .notEqual, pattern])]
    let cs := "(PrefixFilter (''') AND (SKIP') AND PageFilter (10)) AND WHILE ".toList ++
      "ValueFilter (!=, 'regexstring:a:b')".toList
    WellFormed Table.default n ∧ n.AllArgs Arg.IsShort ∧ n.text = cs ∧
      parse Table.default cs = .ok (some n) := by
  intro inner pattern n cs
  have prefixes : WellFormed Table.default
      (.leaf "PrefixFilter" [.text (Utf8.encode "') AND (SKIP".toList)]) :=
    .leaf (s := ⟨[.text], none⟩) (by decide) rfl (.head _) (.exact rfl) (.cons (.text _) .nil)
  have pages : WellFormed Table.default (.leaf "PageFilter" [.number 10]) :=
    .leaf (s := ⟨[.number], none⟩) (by decide) rfl (.head _) (.exact rfl) (.cons (.number 10) .nil)
  have values : WellFormed Table.default (.leaf "ValueFilter" [.op .notEqual, pattern]) :=
    .leaf (s := ⟨[.op, .comparator], none⟩) (by decide) rfl (.head _) (.exact rfl)
      (.cons (.op _) (.cons (.comparator _ fun _ => .inr rfl) .nil))
  have wellFormed : WellFormed Table.default n := by
    refine .list (.inl rfl) (Nat.le_refl 2) (List.forall_mem_cons.mpr ⟨?_, ?_⟩)
    · refine .list (.inl rfl) (Nat.le_refl 2) (List.forall_mem_cons.mpr ⟨prefixes, ?_⟩)
      exact List.forall_mem_singleton.mpr pages
    · exact List.forall_mem_singleton.mpr (.wrap (.inr rfl) values)
  have ten : (Arg.number 10).IsShort := by
    rintro _ ⟨⟩
    exact Nat.pow_lt_pow_right (a := 10) (m := 1) (by decide) (by decide)
  have short : n.AllArgs Arg.IsShort := by
    refine .list (List.forall_mem_cons.mpr ⟨.list (List.forall_mem_cons.mpr ⟨?_, ?_⟩), ?_⟩)
    · exact .leaf (List.forall_mem_singleton.mpr nofun)
    · exact List.forall_mem_singleton.mpr (.leaf (List.forall_mem_singleton.mpr ten))
    · refine List.forall_mem_singleton.mpr (.wrap (.leaf (List.forall_mem_cons.mpr ⟨nofun, ?_⟩)))
      exact List.forall_mem_singleton.mpr nofun
  have text : n.text = cs := by decide +kernel
  have parsed := parse_image.2 wellFormed short
  rw [text] at parsed
  obtain ⟨back, short'⟩ := parse_image.1 parsed
  exact ⟨back, short', text, parsed⟩

end WideColumn.Filter
