import WideColumn.Proofs.Filter.Outcome

/-! Tokens in front of other text. What stands behind a token counts for it only as far as it could
go on with the token, so a blank separates it from anything. -/
namespace WideColumn.Filter

open Text (isBlank isDigit isLetter Apart)

/-- A text between quotes, as it is written: the quotes inside it stand twice. -/
def quotedBody (value : List Char) : List Char :=
  value.flatMap fun c => if c = '\'' then ['\'', '\''] else [c]

theorem stringBody_sound {cs value : List Char} {n : Nat} (h : stringBody cs = some (value, n)) :
    ∃ rest, cs = quotedBody value ++ '\'' :: rest ∧ n = (quotedBody value).length + 1 ∧
      Stops (· == '\'') rest := by
  fun_induction stringBody cs generalizing value n with
  | case1 => cases h
  | case2 rest ih =>
    obtain ⟨⟨inner, m⟩, read, same⟩ := Option.map_eq_some_iff.mp h
    cases same
    obtain ⟨left, rfl, rfl, stops⟩ := ih read
    exact ⟨left, by simp [quotedBody], by simp [quotedBody], stops⟩
  | case3 rest single =>
    cases h
    refine ⟨rest, rfl, rfl, fun c first => ?_⟩
    cases rest with
    | nil => cases first
    | cons d rest =>
      cases first
      simpa using fun quote : c = '\'' => single rest (by rw [quote])
  | case4 c rest other plain ih =>
    obtain ⟨⟨inner, m⟩, read, same⟩ := Option.map_eq_some_iff.mp h
    cases same
    obtain ⟨left, rfl, rfl, stops⟩ := ih read
    have plain : c ≠ '\'' := plain
    exact ⟨left, by simp [quotedBody, plain], by simp [quotedBody, plain], stops⟩

/-- The classes of characters that could go on with a token. -/
def continuations : List (Char → Bool) := [isNameRest, isDigit, (· == '='), (· == '\'')]

/-- A text can stand in for another one behind a token: it goes on with no token that the other
text ends. -/
def Separates (cs rest : List Char) : Prop := ∀ p ∈ continuations, Stops p cs → Stops p rest

theorem Separates.of_head {cs rest : List Char} (same : rest.head? = cs.head?) :
    Separates cs rest := by
  intro p _ stops c first
  exact stops c (same ▸ first)

theorem not_isDigit_of_isBlank {c : Char} (space : isBlank c = true) : isDigit c = false := by
  refine Bool.eq_false_iff.mpr fun digit => ?_
  rw [Text.not_isBlank_of_isDigit digit] at space
  cases space

theorem not_isNameRest_of_isBlank {c : Char} (space : isBlank c = true) : isNameRest c = false := by
  have apart : ∀ ranges ∈ [Text.letterRanges, Text.numeralRanges],
      Apart Text.blankRanges ranges := by decide +kernel
  have notDigit : isDigit c = false := not_isDigit_of_isBlank space
  have other : c ≠ '_' := by
    rintro rfl
    exact absurd space (by decide +kernel)
  have letter : isLetter c = false := Text.not_covers_of_apart (apart _ (by simp)) space
  have numeral := Text.not_covers_of_apart (apart Text.numeralRanges (by simp)) space
  simp [isNameRest, Text.isLetterOrNumeral, Text.isNumeral, letter, notDigit, numeral, other]

/-- A blank goes on with no token. -/
theorem separates_blank {c : Char} (space : isBlank c = true) (cs rest : List Char) :
    Separates cs (c :: rest) := by
  intro p class_ _ d first
  cases first
  simp only [continuations, List.mem_cons, List.not_mem_nil, or_false] at class_
  rcases class_ with rfl | rfl | rfl | rfl
  · exact not_isNameRest_of_isBlank space
  · exact not_isDigit_of_isBlank space
  · refine Bool.eq_false_iff.mpr fun equal => ?_
    rw [beq_iff_eq.mp equal] at space
    exact absurd space (by decide +kernel)
  · refine Bool.eq_false_iff.mpr fun quote => ?_
    rw [beq_iff_eq.mp quote] at space
    exact absurd space (by decide +kernel)

theorem stops_takeWhile {p : Char → Bool} {body cs : List Char}
    (run : (body ++ cs).takeWhile p = body) : Stops p cs := by
  intro c first
  refine Bool.eq_false_iff.mpr fun holds => ?_
  cases cs with
  | nil => cases first
  | cons d cs =>
    cases first
    have inside : ∀ e ∈ body, p e = true := by
      intro e member
      rw [← run] at member
      exact List.mem_takeWhile_imp member
    have longer : (body ++ c :: cs).takeWhile p = body ++ c :: cs.takeWhile p := by
      rw [List.takeWhile_append_of_pos inside, List.takeWhile_cons_of_pos holds]
    have count := congrArg List.length (run.symm.trans longer)
    simp at count

/-- Of the text behind its first character, an operator reads no more than a sign of equality. -/
theorem operator?_of_head {c : Char} {rest rest' : List Char}
    (same : rest.head? = some '=' ↔ rest'.head? = some '=') :
    operator? c rest = operator? c rest' := by
  unfold operator?
  cases rest with
  | nil => cases rest' <;> grind
  | cons d rest => cases rest' <;> grind

theorem operator?_front {c : Char} {body cs rest : List Char} {op : CompareOp}
    (read : operator? c (body ++ cs) = some (op, body.length))
    (stops : Stops (· == '=') cs → Stops (· == '=') rest) :
    operator? c (body ++ rest) = some (op, body.length) := by
  cases body with
  | cons d body => exact (operator?_of_head (by simp)).trans read
  | nil =>
    by_cases equal : cs.head? = some '='
    · -- Another sign of equality would have been read, so the first one is the operator.
      obtain ⟨cs, rfl⟩ := List.head?_eq_some_iff.mp equal
      have first : c = '=' ∧ op = .equal := by
        unfold operator? at read
        grind
      obtain ⟨rfl, rfl⟩ := first
      rfl
    · have next : Stops (· == '=') cs := fun d first => by
        simpa using fun same : d = '=' => equal (same ▸ first)
      have next' : rest.head? ≠ some '=' := fun first => absurd (stops next '=' first) (by simp)
      exact (operator?_of_head (by simp [equal, next'])).trans read

/-- The classes of characters that could go on with a token of a kind. -/
def TokenKind.continuations : TokenKind → List (Char → Bool)
  | .name => [isNameRest]
  | .number _ => [isDigit]
  | .op _ => [(· == '=')]
  | .string _ => [(· == '\'')]
  | _ => []

theorem TokenKind.continuations_subset (kind : TokenKind) :
    kind.continuations ⊆ Filter.continuations := by
  cases kind <;> simp [continuations, Filter.continuations]

/-- A token is read again in front of a text that does not go on with a token of its kind. -/
theorem lexeme_front_of_kind {c : Char} {body cs rest : List Char} {kind : TokenKind}
    (visible : isBlank c = false) (read : lexeme c (body ++ cs) = .ok (kind, body.length))
    (separates : ∀ p ∈ kind.continuations, Stops p cs → Stops p rest) :
    lexeme c (body ++ rest) = .ok (kind, body.length) := by
  have spelled := lexeme_sound read
  generalize count : body.length = n at spelled
  cases spelled with
  | leftParen first | rightParen first | comma first =>
    obtain rfl := List.length_eq_zero_iff.mp count
    simp [lexeme, first]
  | @string value n first closed =>
    obtain ⟨left, same, rfl, stops⟩ := stringBody_sound closed
    have cut : body ++ cs = (quotedBody value ++ ['\'']) ++ left := by simpa using same
    obtain ⟨rfl, rfl⟩ := List.append_inj cut (by simpa using count)
    have again : stringBody (quotedBody value ++ '\'' :: rest) =
        some (value, (quotedBody value).length + 1) :=
      stringBody_quoted value (separates _ (by simp [TokenKind.continuations]) stops)
    simp [lexeme, first, again]
  | @number value first digits =>
    have run := takeWhile_front count.symm
    have stops := separates isDigit (by simp [TokenKind.continuations]) (stops_takeWhile run)
    have inside : ∀ d ∈ body, isDigit d = true := by
      intro d member
      rw [← run] at member
      exact List.mem_takeWhile_imp member
    rw [run] at digits
    have starts : StartsNumber c (body ++ rest) := by
      refine first.imp_right (And.imp_right fun starts => ?_)
      have some := takeWhile_isDigit_ne_nil starts
      rw [run] at some
      obtain ⟨d, body, rfl⟩ := List.exists_cons_of_ne_nil some
      exact inside d (.head _)
    rw [lexeme_number starts, takeWhile_run inside stops, digits, ← count]
    rfl
  | name first plain notDigit =>
    have run := takeWhile_front count.symm
    have stops := separates isNameRest (by simp [TokenKind.continuations]) (stops_takeWhile run)
    rw [← count]
    refine lexeme_word (.intro visible first plain notDigit fun d member => ?_) stops
    rw [← run] at member
    exact List.mem_takeWhile_imp member
  | @op value n symbol =>
    subst count
    exact (lexeme_operator (operator?_front symbol (separates _ (by simp [TokenKind.continuations])))).2

/-- A token is read again in front of a text that ends it as well. -/
theorem lexeme_front {c : Char} {body cs rest : List Char} {kind : TokenKind}
    (visible : isBlank c = false) (read : lexeme c (body ++ cs) = .ok (kind, body.length))
    (separates : Separates cs rest) : lexeme c (body ++ rest) = .ok (kind, body.length) :=
  lexeme_front_of_kind visible read fun p class_ =>
    separates p (kind.continuations_subset class_)

/-- Tokens in front of a text are read again in front of one that stands in for it. -/
theorem Prefix.front {p q : Nat} {cs rest : List Char} {ts : List Token}
    (h : Prefix p cs ts q rest) : ∃ front, cs = front ++ rest ∧
      ∀ rest', Separates rest rest' → Prefix p (front ++ rest') ts q rest' := by
  induction h with
  | done => exact ⟨[], rfl, fun _ _ => .done⟩
  | @blank p q c cs rest ts space _ ih =>
    obtain ⟨front, rfl, again⟩ := ih
    exact ⟨c :: front, rfl, fun rest' separates => .blank space (again rest' separates)⟩
  | @token p q c body cs rest kind ts visible read _ ih =>
    obtain ⟨front, rfl, again⟩ := ih
    refine ⟨c :: body ++ front, by simp, fun rest' separates => ?_⟩
    have behind : Separates (front ++ rest) (front ++ rest') := by
      cases front with
      | nil => exact separates
      | cons d front => exact .of_head rfl
    rw [List.append_assoc]
    exact .token visible (lexeme_front visible read behind) (again rest' separates)

end WideColumn.Filter
