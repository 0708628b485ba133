import WideColumn.Proofs.Text.Trim
import WideColumn.Properties.Basic

/-! The expansion of values, in one pass from the left. Where a placeholder begins, the whole of it
gives way to a text; all other characters stay, and no text that is put in is looked at again. -/
namespace WideColumn.Properties

/-- The name of a variable, and the default if one is given. A name ends at a colon or a closing
brace, a default at a closing brace. -/
structure Placeholder where
  name : List Char
  fallback : Option (List Char)
  named : name ≠ [] := by simp
  namePlain : ∀ c ∈ name, c ≠ ':' ∧ c ≠ '\x7d' := by simp
  fallbackPlain : '\x7d' ∉ fallback.getD [] := by simp

namespace Placeholder

/-- What a placeholder has behind its dollar sign and opening brace. -/
def inside (p : Placeholder) : List Char :=
  p.name ++ p.fallback.elim [] (':' :: ·) ++ ['\x7d']

def spell (p : Placeholder) : List Char := '$' :: '\x7b' :: p.inside

/-- The value of the variable if it is set, else the default, else nothing. -/
def value (environment : Environment) (p : Placeholder) : List Char :=
  match environment (String.ofList p.name) with
  | some text => text.toList
  | none => p.fallback.getD []

end Placeholder

/-- A part of a value. -/
inductive Piece
  | literal (text : List Char)
  | placeholder (p : Placeholder)

def Piece.spell : Piece → List Char
  | literal text => text
  | placeholder p => p.spell

def Piece.fill (environment : Environment) : Piece → List Char
  | literal text => text
  | placeholder p => p.value environment

def spellAll (pieces : List Piece) : List Char := pieces.flatMap Piece.spell

def fillAll (environment : Environment) (pieces : List Piece) : List Char :=
  pieces.flatMap (Piece.fill environment)

/-- A placeholder stands at the start of a text. -/
def Begins (text : List Char) : Prop := ∃ p : Placeholder, p.spell <+: text

/-- Pieces with no placeholder that begins in a literal, whatever pieces it goes on into and with
the text that is behind all of them. -/
inductive Leftmost (behind : List Char) : List Piece → Prop
  | done : Leftmost behind []
  | literal {text : List Char} {pieces : List Piece}
      (plain : ∀ front back, text = front ++ back → back ≠ [] →
        ¬ Begins (back ++ (spellAll pieces ++ behind)))
      (more : Leftmost behind pieces) : Leftmost behind (.literal text :: pieces)
  | placeholder {p : Placeholder} {pieces : List Piece} (more : Leftmost behind pieces) :
      Leftmost behind (.placeholder p :: pieces)

variable {environment : Environment} {behind : List Char} {pieces : List Piece}

/-! What a placeholder is found by. -/

def isNameChar (c : Char) : Bool := c ≠ ':' && c ≠ '\x7d'

def isDefaultChar (c : Char) : Bool := c ≠ '\x7d'

theorem isNameChar_iff {c : Char} : isNameChar c = true ↔ c ≠ ':' ∧ c ≠ '\x7d' := by
  simp [isNameChar]

/-- What a name is followed by decides whether there is a placeholder. -/
theorem placeholder?_name {name : List Char} {stop : Char}
    (plain : ∀ c ∈ name, isNameChar c = true) (stops : isNameChar stop = false)
    (rest : List Char) : placeholder? (name ++ stop :: rest) =
      if name = [] then none
      else if stop = '\x7d' then some (name, [], name.length + 1)
      else
        let fallback := rest.takeWhile isDefaultChar
        if fallback.length < rest.length then
          some (name, fallback, name.length + fallback.length + 2)
        else none := by
  have run := Text.takeWhile_stop plain stops rest
  unfold isNameChar at run
  rw [placeholder?, run]
  simp only [List.isEmpty_iff, List.drop_left]
  rfl

theorem placeholder?_inside (p : Placeholder) (rest : List Char) :
    placeholder? (p.inside ++ rest) = some (p.name, p.fallback.getD [], p.inside.length) := by
  have plain : ∀ c ∈ p.name, isNameChar c = true := fun c member =>
    isNameChar_iff.mpr (p.namePlain c member)
  unfold Placeholder.inside
  cases given : p.fallback with
  | none =>
    have spelled : p.name ++ [] ++ ['\x7d'] ++ rest = p.name ++ '\x7d' :: rest := by simp
    rw [Option.elim_none, spelled, placeholder?_name plain (by decide), if_neg p.named, if_pos rfl]
    simp
  | some text =>
    have textPlain : ∀ c ∈ text, isDefaultChar c = true := by
      have plain := p.fallbackPlain
      rw [given, Option.getD_some] at plain
      intro c member
      exact decide_eq_true fun same => plain (same ▸ member)
    have spelled : p.name ++ ':' :: text ++ ['\x7d'] ++ rest =
        p.name ++ ':' :: (text ++ '\x7d' :: rest) := by simp
    rw [Option.elim_some, spelled, placeholder?_name plain (by decide), if_neg p.named,
      if_neg (by decide), Text.takeWhile_stop textPlain (by decide)]
    simp
    omega

/-- Only where a placeholder begins is one found. -/
theorem begins_of_placeholder? {cs : List Char} (found : placeholder? cs ≠ none) :
    Begins ('$' :: '\x7b' :: cs) := by
  suffices inside : ∃ p : Placeholder, p.inside <+: cs by
    obtain ⟨p, rest, rfl⟩ := inside
    exact ⟨p, rest, rfl⟩
  rcases Text.exists_stop isNameChar cs with whole | ⟨name, stop, rest, rfl, plain, stops⟩
  · unfold isNameChar at whole
    rw [placeholder?, whole] at found
    simp at found
  have namePlain : ∀ c ∈ name, c ≠ ':' ∧ c ≠ '\x7d' := fun c member =>
    isNameChar_iff.mp (plain c member)
  rw [placeholder?_name plain stops] at found
  by_cases named : name = []
  · rw [if_pos named] at found
    exact absurd rfl found
  rw [if_neg named] at found
  by_cases closes : stop = '\x7d'
  · subst closes
    have nothing : '\x7d' ∉ (none : Option (List Char)).getD [] := List.not_mem_nil
    exact ⟨⟨name, none, named, namePlain, nothing⟩, rest, by simp [Placeholder.inside]⟩
  rw [if_neg closes] at found
  have colon : stop = ':' := by simpa [isNameChar, closes] using stops
  subst colon
  rcases Text.exists_stop isDefaultChar rest with whole | ⟨text, stop, rest, rfl, textPlain, stops⟩
  · rw [whole] at found
    simp at found
  · have brace : stop = '\x7d' := by simpa [isDefaultChar] using stops
    subst brace
    have closed : '\x7d' ∉ (some text).getD [] := by
      intro member
      simpa [isDefaultChar] using textPlain _ member
    exact ⟨⟨name, some text, named, namePlain, closed⟩, rest, by simp [Placeholder.inside]⟩

theorem begins_iff {cs : List Char} : Begins ('$' :: '\x7b' :: cs) ↔ placeholder? cs ≠ none := by
  constructor
  · rintro ⟨p, rest, spelled⟩
    obtain rfl : p.inside ++ rest = cs := by simpa [Placeholder.spell] using spelled
    simp [placeholder?_inside]
  · exact begins_of_placeholder?

/-! One pass. -/

theorem expandAfter_skip (front rest : List Char) :
    expandAfter environment front.length (front ++ rest) = expandAfter environment 0 rest := by
  induction front with
  | nil => rfl
  | cons c front ih => exact ih

theorem expandAfter_placeholder (p : Placeholder) (rest : List Char) :
    expandAfter environment 0 (p.spell ++ rest) =
      p.value environment ++ expandAfter environment 0 rest := by
  have value : ((environment (String.ofList p.name)).map String.toList).getD (p.fallback.getD []) =
      p.value environment := by
    unfold Placeholder.value
    cases environment (String.ofList p.name) with
    | none => rfl
    | some text => rfl
  have behind : expandAfter environment (p.inside.length + 1) ('\x7b' :: (p.inside ++ rest)) =
      expandAfter environment 0 rest := expandAfter_skip ('\x7b' :: p.inside) rest
  rw [Placeholder.spell, List.cons_append, List.cons_append, expandAfter, placeholder?_inside]
  dsimp only
  rw [value]
  exact congrArg _ behind

theorem expandAfter_kept {c : Char} {rest : List Char} (none : ¬ Begins (c :: rest)) :
    expandAfter environment 0 (c :: rest) = c :: expandAfter environment 0 rest := by
  rw [expandAfter.eq_def]
  split
  · next empty => cases empty
  · next zero _ => cases zero
  · next more _ whole =>
    cases whole
    rw [Decidable.not_not.mp (mt begins_iff.mpr none)]
  · next whole =>
    cases whole
    rfl

theorem expandAfter_literal {text rest : List Char}
    (plain : ∀ front back, text = front ++ back → back ≠ [] → ¬ Begins (back ++ rest)) :
    expandAfter environment 0 (text ++ rest) = text ++ expandAfter environment 0 rest := by
  induction text with
  | nil => rfl
  | cons c text ih =>
    have later : expandAfter environment 0 (text ++ rest) =
        text ++ expandAfter environment 0 rest := by
      apply ih
      intro front back cut
      exact plain (c :: front) back (congrArg (c :: ·) cut)
    have here := plain [] (c :: text) rfl (List.cons_ne_nil c text)
    exact (expandAfter_kept here).trans (congrArg (c :: ·) later)

theorem spellAll_cons (piece : Piece) (pieces : List Piece) :
    spellAll (piece :: pieces) = piece.spell ++ spellAll pieces := List.flatMap_cons

theorem fillAll_cons (piece : Piece) (pieces : List Piece) :
    fillAll environment (piece :: pieces) =
      piece.fill environment ++ fillAll environment pieces := List.flatMap_cons

theorem expandAfter_spellAll (leftmost : Leftmost behind pieces) :
    expandAfter environment 0 (spellAll pieces ++ behind) =
      fillAll environment pieces ++ expandAfter environment 0 behind := by
  induction leftmost with
  | done => rfl
  | literal plain _ ih =>
    rw [spellAll_cons, fillAll_cons, List.append_assoc, List.append_assoc, ← ih]
    exact expandAfter_literal plain
  | placeholder _ ih =>
    rw [spellAll_cons, fillAll_cons, List.append_assoc, List.append_assoc, ← ih]
    exact expandAfter_placeholder _ _

/-! The pieces of a text. -/

theorem Begins.dollar {c : Char} {rest : List Char} (begins : Begins (c :: rest)) : c = '$' := by
  obtain ⟨p, prefixed⟩ := begins
  exact (List.cons_prefix_cons.mp prefixed).1.symm

theorem leftmost_of_no_dollar (plain : ∀ text, Piece.literal text ∈ pieces → '$' ∉ text) :
    Leftmost behind pieces := by
  induction pieces with
  | nil => exact .done
  | cons piece pieces ih =>
    have more : Leftmost behind pieces := ih fun text member => plain text (.tail _ member)
    cases piece with
    | placeholder p => exact .placeholder more
    | literal text =>
      refine .literal ?_ more
      rintro front back rfl filled begins
      obtain ⟨c, back, rfl⟩ := List.exists_cons_of_ne_nil filled
      apply plain _ (.head _)
      simp [begins.dollar]

/-- Every text is made of pieces in which no placeholder is passed over. -/
theorem exists_leftmost (text : List Char) :
    ∃ pieces, spellAll pieces = text ∧ Leftmost [] pieces := by
  by_cases begins : Begins text
  · obtain ⟨p, rest, rfl⟩ := begins
    obtain ⟨pieces, rfl, leftmost⟩ := exists_leftmost rest
    exact ⟨.placeholder p :: pieces, rfl, .placeholder leftmost⟩
  · cases text with
    | nil => exact ⟨[], rfl, .done⟩
    | cons c rest =>
      obtain ⟨pieces, rfl, leftmost⟩ := exists_leftmost rest
      refine ⟨.literal [c] :: pieces, rfl, .literal ?_ leftmost⟩
      intro front back cut filled
      obtain ⟨rfl, rfl⟩ : front = [] ∧ back = [c] := by
        simpa [filled, eq_comm] using List.append_eq_singleton_iff.mp cut.symm
      simpa using begins
  termination_by text.length
  decreasing_by
    all_goals
      subst text
      simp [Placeholder.spell]
    omega

/-! Looking a value up. -/

theorem get?_of_text {p : Properties} {key text : String}
    (found : p.values.get? key = some (.text text)) (environment : Environment) :
    p.get? environment key = .ok (some (expand environment text)) := by
  rw [get?, found]
  rfl

theorem get?_of_leftmost {p : Properties} {key text : String}
    (found : p.values.get? key = some (.text text))
    (spelled : spellAll pieces ++ behind = text.toList) (leftmost : Leftmost behind pieces) :
    p.get? environment key = .ok (some (String.ofList
      (fillAll environment pieces ++ expandAfter environment 0 behind))) := by
  rw [get?_of_text found, expand, ← spelled, expandAfter_spellAll leftmost]

/-- A value made of literals without dollar signs and of placeholders is looked up as the literals
with what the placeholders stand for, whatever that is. Every value is made of placeholders and of
literals in which none begins, and then the same is true; an opening that is no placeholder stays,
and what is behind it is expanded on its own. -/
theorem get?_expands {p : Properties} {key text : String}
    (found : p.values.get? key = some (.text text)) (environment : Environment) :
    (∀ pieces, spellAll pieces = text.toList → (∀ l, Piece.literal l ∈ pieces → '$' ∉ l) →
      p.get? environment key = .ok (some (String.ofList (fillAll environment pieces)))) ∧
    (∃ pieces, spellAll pieces = text.toList ∧ Leftmost [] pieces) ∧
    (∀ pieces, spellAll pieces = text.toList → Leftmost [] pieces →
      p.get? environment key = .ok (some (String.ofList (fillAll environment pieces)))) ∧
    ∀ pieces rest, spellAll pieces ++ '$' :: '\x7b' :: rest = text.toList →
      Leftmost ('$' :: '\x7b' :: rest) pieces → ¬ Begins ('$' :: '\x7b' :: rest) →
      p.get? environment key = .ok (some (String.ofList (fillAll environment pieces ++
        '$' :: '\x7b' :: (expand environment (String.ofList rest)).toList))) := by
  have whole : ∀ pieces, spellAll pieces = text.toList → Leftmost [] pieces →
      p.get? environment key = .ok (some (String.ofList (fillAll environment pieces))) := by
    intro pieces spelled leftmost
    rw [← List.append_nil (spellAll pieces)] at spelled
    rw [get?_of_leftmost found spelled leftmost]
    simp [expandAfter]
  refine ⟨?_, exists_leftmost text.toList, whole, ?_⟩
  · intro pieces spelled plain
    exact whole pieces spelled (leftmost_of_no_dollar plain)
  · intro pieces rest spelled leftmost broken
    have brace : ¬ Begins ('\x7b' :: rest) := by
      intro begins
      cases begins.dollar
    rw [get?_of_leftmost found spelled leftmost, expandAfter_kept broken, expandAfter_kept brace,
      expand, String.toList_ofList, String.toList_ofList]

/-- A dollar sign that is put in before a brace opens no placeholder, a default may look like an
opening, and a variable that is set to nothing has no default; an opening without a name stays. -/
theorem get?_expands_dollar :
    let environment : Environment := fun name =>
      if name = "D" then some "$" else if name = "E" then some "" else none
    let pieces : List Piece := [.placeholder { name := ['D'], fallback := none },
      .literal "\x7bD\x7d:".toList, .placeholder { name := ['P'], fallback := some ['$', '\x7b'] },
      .placeholder { name := ['E'], fallback := some ['x'] }]
    let text := "$\x7bD\x7d\x7bD\x7d:$\x7bP:$\x7b\x7d$\x7bE:x\x7d"
    let broken := text ++ "$\x7b\x7d$\x7bD\x7d"
    let p : Properties := ⟨⟨[("k", .text text), ("b", .text broken)]⟩⟩
    p.values.get? "k" = some (.text text) ∧ spellAll pieces = text.toList ∧
      p.get? environment "k" = .ok (some "$\x7bD\x7d:$\x7b") ∧
      ¬ Begins "$\x7b\x7d$\x7bD\x7d".toList ∧
      p.get? environment "b" = .ok (some "$\x7bD\x7d:$\x7b$\x7b\x7d$") := by
  intro environment pieces text broken p
  have spelled : spellAll pieces = text.toList := by decide +kernel
  have plain : ∀ l, Piece.literal l ∈ pieces → '$' ∉ l := by
    intro l member
    obtain rfl : l = "\x7bD\x7d:".toList := by simpa [pieces] using member
    decide
  have unnamed : ¬ Begins "$\x7b\x7d$\x7bD\x7d".toList := mt begins_iff.mp (by decide)
  have filled : String.ofList (fillAll environment pieces) = "$\x7bD\x7d:$\x7b" := by decide +kernel
  have kept : String.ofList (fillAll environment pieces ++ '$' :: '\x7b' ::
      (expand environment (String.ofList "\x7d$\x7bD\x7d".toList)).toList) =
      "$\x7bD\x7d:$\x7b$\x7b\x7d$" := by decide +kernel
  refine ⟨rfl, spelled, ?_, unnamed, ?_⟩
  · have found : p.values.get? "k" = some (.text text) := rfl
    rw [← filled]
    exact (get?_expands found environment).1 pieces spelled plain
  · have found : p.values.get? "b" = some (.text broken) := rfl
    have rest : spellAll pieces ++ "$\x7b\x7d$\x7bD\x7d".toList = broken.toList := by
      decide +kernel
    obtain ⟨-, -, -, opening⟩ := get?_expands found environment
    rw [← kept]
    exact opening pieces _ rest (leftmost_of_no_dollar plain) unnamed

end WideColumn.Properties
