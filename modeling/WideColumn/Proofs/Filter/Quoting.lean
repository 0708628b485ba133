import WideColumn.Proofs.Filter.Lexemes
import WideColumn.Proofs.Filter.Relocation

/-! A quoted text between two other ones. A quote goes on with nothing but a string, and a string
that has been closed goes on with nothing but a quote. So the text between the quotes, with the
quotes in it written twice, is one token, and what stands on its two sides keeps its tokens. -/
namespace WideColumn.Filter

open Text (isDigit)

theorem IsLexeme.getLast?_string {value text : List Char}
    (spelled : IsLexeme (.string value) text) : text.getLast? = some '\'' := by
  cases spelled with
  | string paired => rw [← List.cons_append, List.getLast?_concat]

/-- Only a string goes on behind a quote. -/
theorem stops_quote {kind : TokenKind} (other : ∀ value, kind ≠ .string value) (rest : List Char) :
    ∀ p ∈ kind.continuations, Stops p ('\'' :: rest) := by
  intro p class_ c first
  cases first
  cases kind with
  | string value => exact absurd rfl (other value)
  | name =>
    rw [List.mem_singleton.mp class_]
    simp [isNameRest, Text.isLetterOrNumeral_ascii]
  | number value =>
    rw [List.mem_singleton.mp class_]
    exact not_isDigit_of_mem (by simp)
  | op value =>
    rw [List.mem_singleton.mp class_]
    decide
  | leftParen | rightParen | comma | finish => cases class_

/-- A text that does not end in a quote has its tokens in front of one as well. -/
theorem Prefix.before_quote {p q : Nat} {cs : List Char} {ts : List Token}
    (h : Prefix p cs ts q []) (unquoted : cs.getLast? ≠ some '\'') (rest : List Char) :
    Prefix p (cs ++ '\'' :: rest) ts q ('\'' :: rest) := by
  generalize atEnd : ([] : List Char) = left at h
  induction h with
  | done =>
    subst atEnd
    exact .done
  | blank space _ ih =>
    refine .blank space (ih (fun last => unquoted ?_) atEnd)
    simp [List.getLast?_cons, last]
  | @token p q c body cs left kind ts visible read more ih =>
    rw [List.append_assoc]
    refine .token visible ?_ (ih (fun last => unquoted ?_) atEnd)
    · cases cs with
      | cons d cs => exact lexeme_front visible read (.of_head rfl)
      | nil =>
        -- The token ends the text, so it is no string.
        refine lexeme_front_of_kind visible read fun class_ member _ => ?_
        refine stops_quote (fun value string => unquoted ?_) rest class_ member
        subst string
        rw [List.append_nil]
        exact (isLexeme_of_lexeme visible read).getLast?_string
    · rw [List.getLast?_append, last, Option.some_or]

/-- A quoted text that no quote follows is one string. -/
theorem Prefix.quoted (p : Nat) (value : List Char) {rest : List Char}
    (unquoted : rest.head? ≠ some '\'') :
    Prefix p (Piece.quoteText value ++ rest) [⟨.string value, Piece.quoteText value, p⟩]
      (p + (Piece.quoteText value).length) rest := by
  have stops : Stops (· == '\'') rest := by
    intro c first
    simpa using fun quote : c = '\'' => unquoted (quote ▸ first)
  obtain ⟨body, same, read⟩ := lexeme_quoted value stops
  rw [same, List.length_cons, Nat.add_comm body.length, ← Nat.add_assoc]
  exact .token (by decide +kernel) read .done

/-- The tokens in front of a quoted text, the string, and the tokens behind, which have moved. -/
theorem scan_quoted {u v : List Char} {us : List Token} (scanned : scan u = .ok us)
    (before : u.getLast? ≠ some '\'') (behind : v.head? ≠ some '\'') (value : List Char) :
    scan (u ++ Piece.quoteText value ++ v) =
      relocated (u.length + (Piece.quoteText value).length + ·)
        (fun vs => us ++ ⟨.string value, Piece.quoteText value, u.length⟩ ::
          vs.map (Token.relocate (u.length + (Piece.quoteText value).length + ·)))
        (scan v) := by
  have front : Prefix 0 (u ++ (Piece.quoteText value ++ v)) us u.length _ :=
    (scan_iff.mp scanned).before_quote before _
  have read := (front.append (.quoted u.length value behind)).scanned
  have moved := scanAfter_relocated (u.length + (Piece.quoteText value).length) 0 0 v
  rw [Nat.add_zero] at moved
  rw [scan, List.append_assoc, read, moved, scan]
  cases scanAfter 0 0 v with
  | error e => rfl
  | ok vs => simp [relocated, Except.map]

theorem tokenize_quoted {u v : List Char} {us vs : List Token} (tokens : tokenize u = .ok us)
    (before : u.getLast? ≠ some '\'') (tokens' : tokenize v = .ok vs)
    (behind : v.head? ≠ some '\'') (value : List Char) :
    tokenize (u ++ Piece.quoteText value ++ v) =
      .ok (us.dropLast ++ ⟨.string value, Piece.quoteText value, u.length⟩ ::
        vs.map (Token.relocate (u.length + (Piece.quoteText value).length + ·))) := by
  obtain ⟨front, scanned, rfl⟩ := map_eq_ok_iff.mp tokens
  obtain ⟨back, scanned', rfl⟩ := map_eq_ok_iff.mp tokens'
  rw [tokenize, scan_quoted scanned before behind value, scanned', relocated_ok]
  simp [Except.map, Token.finish, Token.relocate, Nat.add_assoc]

end WideColumn.Filter
