import WideColumn.Filter.Printer
import WideColumn.Proofs.Filter.Matching
import WideColumn.Proofs.Text.Ascii
import WideColumn.Proofs.Text.Integer

/-! Scanning, as a judgment on a text with what stands behind it. A token is read with the actual
remaining characters present, so composition cannot cut a name, a number or an operator short. -/
namespace WideColumn.Filter

open Text (isBlank isDigit isLetter isLetterOrNumeral)

/-- The tokens at the front of a text, from a position up to another one with the rest behind it. -/
inductive Prefix : Nat → List Char → List Token → Nat → List Char → Prop
  | done {p : Nat} {rest : List Char} : Prefix p rest [] p rest
  | blank {p q : Nat} {c : Char} {cs rest : List Char} {ts : List Token} (space : isBlank c = true)
      (more : Prefix (p + 1) cs ts q rest) : Prefix p (c :: cs) ts q rest
  | token {p q : Nat} {c : Char} {body cs rest : List Char} {kind : TokenKind} {ts : List Token}
      (visible : isBlank c = false) (read : lexeme c (body ++ cs) = .ok (kind, body.length))
      (more : Prefix (p + 1 + body.length) cs ts q rest) :
      Prefix p (c :: body ++ cs) (⟨kind, c :: body, p⟩ :: ts) q rest

namespace Prefix

theorem append {p q r : Nat} {cs middle rest : List Char} {ts us : List Token}
    (first : Prefix p cs ts q middle) (last : Prefix q middle us r rest) :
    Prefix p cs (ts ++ us) r rest := by
  induction first with
  | done => exact last
  | blank space _ ih => exact .blank space (ih last)
  | token visible read _ ih => exact .token visible read (ih last)

/-- Positions count the characters that have been read. -/
theorem position {p q : Nat} {cs rest : List Char} {ts : List Token} (h : Prefix p cs ts q rest) :
    p + cs.length = q + rest.length := by
  induction h with
  | done => rfl
  | blank _ _ ih =>
    rw [List.length_cons]
    omega
  | token _ _ _ ih =>
    simp only [List.length_append, List.length_cons]
    omega

end Prefix

theorem stringBody_length {cs value : List Char} {n : Nat} (h : stringBody cs = some (value, n)) :
    n ≤ cs.length := by
  fun_induction stringBody cs generalizing value n with
  | case1 => cases h
  | case2 rest ih =>
    obtain ⟨⟨inner, m⟩, read, same⟩ := Option.map_eq_some_iff.mp h
    cases same
    have := ih read
    simp only [List.length_cons]
    omega
  | case3 =>
    cases h
    simp
  | case4 c rest _ _ ih =>
    obtain ⟨⟨inner, m⟩, read, same⟩ := Option.map_eq_some_iff.mp h
    cases same
    have := ih read
    simp only [List.length_cons]
    omega

theorem operator?_length {c : Char} {rest : List Char} {op : CompareOp} {n : Nat}
    (h : operator? c rest = some (op, n)) : n ≤ rest.length := by
  unfold operator? at h
  split at h <;> cases h <;> simp

/-- Why a token is read: the class of its first character, and what the rest of it spells. -/
inductive Lexeme (c : Char) (rest : List Char) : TokenKind → Nat → Prop
  | leftParen (first : c = '(') : Lexeme c rest .leftParen 0
  | rightParen (first : c = ')') : Lexeme c rest .rightParen 0
  | comma (first : c = ',') : Lexeme c rest .comma 0
  | string {value : List Char} {n : Nat} (first : c = '\'')
      (closed : stringBody rest = some (value, n)) : Lexeme c rest (.string value) n
  | number {value : Int} (first : isDigit c = true ∨ c = '-' ∧ startsWithDigit rest = true)
      (read : Text.readInteger (c :: rest.takeWhile isDigit) = .ok value) :
      Lexeme c rest (.number value) (rest.takeWhile isDigit).length
  | name (first : isLetter c = true ∨ c = '_') (plain : c ∉ ['(', ')', ',', '\''])
      (notDigit : isDigit c = false) : Lexeme c rest .name (rest.takeWhile isNameRest).length
  | op {value : CompareOp} {n : Nat} (symbol : operator? c rest = some (value, n)) :
      Lexeme c rest (.op value) n

theorem lexeme_sound {c : Char} {rest : List Char} {kind : TokenKind} {n : Nat}
    (h : lexeme c rest = .ok (kind, n)) : Lexeme c rest kind n := by
  unfold lexeme at h
  split at h
  · next first =>
    cases h
    exact .leftParen first
  split at h
  · next first =>
    cases h
    exact .rightParen first
  split at h
  · next first =>
    cases h
    exact .comma first
  split at h
  · next first =>
    split at h
    · next value n closed =>
      cases h
      exact .string first closed
    · cases h
  next notLeft notRight notComma notQuote =>
  split at h
  · next first =>
    dsimp only at h
    split at h
    · next value read =>
      cases h
      exact .number (by simpa using first) read
    · cases h
  next notNumber =>
  simp only [Bool.or_eq_true, not_or] at notNumber
  split at h
  · next first =>
    cases h
    exact .name (by simpa using first) (by simp [notLeft, notRight, notComma, notQuote])
      (Bool.eq_false_iff.mpr notNumber.1)
  · split at h
    · next symbol =>
      cases h
      exact .op symbol
    · cases h

theorem lexeme_length {c : Char} {rest : List Char} {kind : TokenKind} {n : Nat}
    (h : lexeme c rest = .ok (kind, n)) : n ≤ rest.length := by
  cases lexeme_sound h with
  | leftParen | rightParen | comma => exact Nat.zero_le _
  | string _ closed => exact stringBody_length closed
  | number | name => exact (List.takeWhile_sublist _).length_le
  | op symbol => exact operator?_length symbol

/-- What has been read is skipped. -/
theorem scanAfter_append (body cs : List Char) (p : Nat) :
    scanAfter body.length p (body ++ cs) = scanAfter 0 (p + body.length) cs := by
  induction body generalizing p with
  | nil => rfl
  | cons c body ih =>
    simp only [List.length_cons, List.cons_append, scanAfter, ih]
    congr 1
    omega

theorem Prefix.scanned {p q : Nat} {cs rest : List Char} {ts : List Token}
    (h : Prefix p cs ts q rest) : scanAfter 0 p cs = (scanAfter 0 q rest).map (ts ++ ·) := by
  induction h with
  | @done p rest => cases scanAfter 0 p rest <;> rfl
  | blank space _ ih => simpa only [scanAfter, space, if_true] using ih
  | @token p q c body cs rest kind ts visible read _ ih =>
    simp only [List.cons_append, scanAfter, visible, Bool.false_eq_true, if_false, read,
      scanAfter_append, ih, List.take_left]
    cases scanAfter 0 q rest <;> rfl

/-- A token and the tokens behind it. -/
theorem Prefix.cons {p q n : Nat} {c : Char} {cs rest : List Char} {kind : TokenKind}
    {ts : List Token} (visible : isBlank c = false) (read : lexeme c cs = .ok (kind, n))
    (more : Prefix (p + 1 + n) (cs.drop n) ts q rest) :
    Prefix p (c :: cs) (⟨kind, c :: cs.take n, p⟩ :: ts) q rest := by
  have cut : cs = cs.take n ++ cs.drop n := (List.take_append_drop n cs).symm
  have count : (cs.take n).length = n := List.length_take_of_le (lexeme_length read)
  have step : Prefix p (c :: cs.take n ++ cs.drop n) (⟨kind, c :: cs.take n, p⟩ :: ts) q rest :=
    .token visible (by rw [← cut, count, read]) (by rwa [count])
  simpa [← cut] using step

/-- The failure of a lexeme that starts at a position. -/
def LexemeError.at (position : Nat) : LexemeError → Failure
  | reason r => .rejected ⟨r, position⟩
  | number e => .number e

/-- The scanner stops at the end of the text, or at the first lexeme that it cannot read. -/
theorem scanAfter_outcome (skip p : Nat) (cs : List Char) (bound : skip ≤ cs.length) :
    (∃ ts q, Prefix (p + skip) (cs.drop skip) ts q [] ∧ scanAfter skip p cs = .ok ts) ∨
      ∃ ts q c rest error, Prefix (p + skip) (cs.drop skip) ts q (c :: rest) ∧
        lexeme c rest = .error error ∧ scanAfter skip p cs = .error (error.at q) := by
  -- Characters of a token are skipped one by one, so the induction takes in every `skip`.
  induction cs generalizing skip p with
  | nil => exact .inl ⟨[], p + skip, by simpa using Prefix.done, by simp [scanAfter]⟩
  | cons c rest ih =>
    cases skip with
    | succ skip =>
      have more := ih skip (p + 1) (Nat.le_of_succ_le_succ bound)
      rwa [Nat.add_right_comm, Nat.add_assoc] at more
    | zero =>
      simp only [scanAfter]
      split
      · next space =>
        refine (ih 0 (p + 1) (Nat.zero_le _)).imp ?_ ?_
        · rintro ⟨ts, q, more, scanned⟩
          exact ⟨ts, q, .blank space more, scanned⟩
        · rintro ⟨ts, q, d, left, error, more, failed⟩
          exact ⟨ts, q, d, left, error, .blank space more, failed⟩
      · next visible =>
        split
        · next unread => exact .inr ⟨[], p, c, rest, _, .done, unread, rfl⟩
        · next unread => exact .inr ⟨[], p, c, rest, _, .done, unread, rfl⟩
        · next kind n read =>
          have visible := Bool.eq_false_iff.mpr visible
          refine (ih n (p + 1) (lexeme_length read)).imp ?_ ?_
          · rintro ⟨ts, q, more, scanned⟩
            exact ⟨_, q, .cons visible read more, by rw [scanned]; rfl⟩
          · rintro ⟨ts, q, d, left, error, more, unread, failed⟩
            exact ⟨_, q, d, left, error, .cons visible read more, unread, by rw [failed]; rfl⟩

theorem Prefix.scan_eq {cs : List Char} {ts : List Token} {q : Nat} (h : Prefix 0 cs ts q []) :
    scan cs = .ok ts := by
  simpa [scan, scanAfter, Except.map] using h.scanned

theorem scan_iff {cs : List Char} {ts : List Token} :
    scan cs = .ok ts ↔ Prefix 0 cs ts cs.length [] := by
  constructor
  · intro scanned
    rcases scanAfter_outcome 0 0 cs (Nat.zero_le _) with ⟨us, q, read, same⟩ | failed
    · have position := read.position
      cases scanned.symm.trans same
      simp only [Nat.add_zero, List.drop_zero, List.length_nil, Nat.zero_add] at read position
      rwa [position]
    · obtain ⟨us, q, c, rest, error, -, -, failed⟩ := failed
      cases scanned.symm.trans failed
  · exact Prefix.scan_eq

/-! What the tokens of each kind look like, and how they are read again from such a text. -/

/-- Nothing at the front of a text satisfies `p`. -/
def Stops (p : Char → Bool) (rest : List Char) : Prop := ∀ c, rest.head? = some c → p c = false

/-- A run of characters ends where the next character is of another class. -/
theorem takeWhile_run {p : Char → Bool} {run rest : List Char} (inside : ∀ c ∈ run, p c = true)
    (stops : Stops p rest) : (run ++ rest).takeWhile p = run := by
  have stop : rest.takeWhile p = [] := by
    cases rest with
    | nil => rfl
    | cons c rest => simp [stops c rfl]
  rw [List.takeWhile_append_of_pos inside, stop, List.append_nil]

/-- A name: a letter or an underscore, and characters that go on with it. -/
inductive Word : List Char → Prop
  | intro {c : Char} {body : List Char} (visible : isBlank c = false)
      (first : isLetter c = true ∨ c = '_') (plain : c ∉ ['(', ')', ',', '\''])
      (notDigit : isDigit c = false) (rest : ∀ d ∈ body, isNameRest d = true) : Word (c :: body)

/-- A run of ASCII letters is a word. -/
theorem Word.of_isAlpha {c : Char} {body : List Char} (run : (c :: body).all Char.isAlpha = true) :
    Word (c :: body) := by
  have letters := List.all_eq_true.mp run
  have ascii : ∀ d ∈ c :: body, d.toNat < 128 := by
    intro d member
    have bounds := Text.isAlpha_iff_toNat.mp (letters d member)
    omega
  have first := letters c (by simp)
  have notDigit : c.isDigit = false := by
    have bounds := Text.isAlpha_iff_toNat.mp first
    refine Bool.eq_false_iff.mpr fun digit => ?_
    have below : c.toNat ≤ 57 := (Char.isDigit_iff_toNat.mp digit).2
    omega
  refine .intro (Text.not_isBlank_of_isAlpha first) (.inl ?_) ?_ ?_ fun d member => ?_
  · rw [Text.isLetter_ascii (ascii c (by simp)), first]
  · intro mark
    simp only [List.mem_cons, List.not_mem_nil, or_false] at mark
    rcases mark with rfl | rfl | rfl | rfl <;> simp at first
  · rw [Text.isDigit_ascii (ascii c (by simp)), notDigit]
  · have inside : d ∈ c :: body := by simp [member]
    simp [isNameRest, Text.isLetterOrNumeral_ascii (ascii d inside), Char.isAlphanum,
      letters d inside]

/-- What starts like a word is read as a name, to the end of its run. -/
theorem lexeme_name {c : Char} {body : List Char} (word : Word (c :: body)) (rest : List Char) :
    lexeme c rest = .ok (.name, (rest.takeWhile isNameRest).length) := by
  cases word with
  | intro visible first plain notDigit inside =>
    have notMinus : c ≠ '-' := by
      rintro rfl
      simp [Text.isLetter_ascii] at first
    have start : (isLetter c || decide (c = '_')) = true := by simpa using first
    simp only [List.mem_cons, List.not_mem_nil, or_false, not_or] at plain
    simp [lexeme, plain, notDigit, notMinus, start]

theorem lexeme_word {c : Char} {body rest : List Char} (word : Word (c :: body))
    (stops : Stops isNameRest rest) : lexeme c (body ++ rest) = .ok (.name, body.length) := by
  rw [lexeme_name word]
  cases word with
  | intro _ _ _ _ inside => rw [takeWhile_run inside stops]

/-- A text between quotes, with the quotes inside it written twice, is read as that text. -/
theorem stringBody_quoted (value : List Char) {rest : List Char} (stops : Stops (· == '\'') rest) :
    stringBody (value.flatMap (fun c => if c = '\'' then ['\'', '\''] else [c]) ++ '\'' :: rest) =
      some (value, (value.flatMap fun c => if c = '\'' then ['\'', '\''] else [c]).length + 1) := by
  induction value with
  | nil =>
    cases rest with
    | nil => rfl
    | cons c rest =>
      have other : c ≠ '\'' := by simpa using stops c rfl
      have ends : stringBody ('\'' :: c :: rest) = some ([], 1) := by
        rw [stringBody]
        intro rest' same
        exact other (List.cons.inj same).1
      simpa using ends
  | cons c value ih =>
    by_cases quote : c = '\''
    · simp [quote, stringBody, ih]
    · simp [quote, stringBody, ih]

theorem lexeme_quoted (value : List Char) {rest : List Char} (stops : Stops (· == '\'') rest) :
    ∃ body, Piece.quoteText value = '\'' :: body ∧
      lexeme '\'' (body ++ rest) = .ok (.string value, body.length) := by
  refine ⟨_, rfl, ?_⟩
  have closed := stringBody_quoted value stops
  simp [lexeme, closed]

theorem not_isDigit_of_mem {c : Char} (plain : c ∈ ['(', ')', ',', '\'', ' ', '-']) :
    isDigit c = false := by
  simp only [List.mem_cons, List.not_mem_nil, or_false] at plain
  rcases plain with rfl | rfl | rfl | rfl | rfl | rfl <;> simp [Text.isDigit_ascii]

theorem operator?_symbol (op : CompareOp) {rest : List Char} (stops : Stops (· == '=') rest) :
    ∃ c body, op.symbol = c :: body ∧ operator? c (body ++ rest) = some (op, body.length) := by
  cases op with
  | less | equal | greater =>
    refine ⟨_, _, rfl, ?_⟩
    cases rest with
    | nil => rfl
    | cons c rest =>
      have other : c ≠ '=' := by simpa using stops c rfl
      simp [operator?, other]
  | lessOrEqual | notEqual | greaterOrEqual => exact ⟨_, _, rfl, rfl⟩

/-- An operator is read as one token, since no other token starts with one of its characters. -/
theorem lexeme_operator {c : Char} {rest : List Char} {op : CompareOp} {n : Nat}
    (symbol : operator? c rest = some (op, n)) :
    isBlank c = false ∧ lexeme c rest = .ok (.op op, n) := by
  have first : c ∈ ['<', '=', '!', '>'] := by
    unfold operator? at symbol
    split at symbol <;> simp at symbol ⊢
  have other : isBlank c = false ∧ isDigit c = false ∧ isLetter c = false ∧
      c ∉ ['(', ')', ',', '\'', '-', '_'] := by
    simp only [List.mem_cons, List.not_mem_nil, or_false] at first
    rcases first with rfl | rfl | rfl | rfl <;>
      exact ⟨rfl, by simp [Text.isDigit_ascii], by simp [Text.isLetter_ascii], by decide⟩
  obtain ⟨visible, notDigit, notLetter, other⟩ := other
  simp only [List.mem_cons, List.not_mem_nil, or_false, not_or] at other
  exact ⟨visible, by simp [lexeme, other, notDigit, notLetter, symbol]⟩

theorem lexeme_op (op : CompareOp) {rest : List Char} (stops : Stops (· == '=') rest) :
    ∃ c body, op.symbol = c :: body ∧ isBlank c = false ∧
      lexeme c (body ++ rest) = .ok (.op op, body.length) := by
  obtain ⟨c, body, same, symbol⟩ := operator?_symbol op stops
  obtain ⟨visible, read⟩ := lexeme_operator symbol
  exact ⟨c, body, same, visible, read⟩

theorem takeWhile_isDigit_ne_nil {rest : List Char} (starts : startsWithDigit rest = true) :
    rest.takeWhile isDigit ≠ [] := by
  cases rest with
  | nil => cases starts
  | cons d rest =>
    have digit : isDigit d = true := starts
    simp [digit]

theorem readInteger_bound {c : Char} {rest : List Char} {value : Int}
    (first : isDigit c = true ∨ c = '-' ∧ startsWithDigit rest = true)
    (read : Text.readInteger (c :: rest.takeWhile isDigit) = .ok value) :
    value.natAbs < 10 ^ Text.integerDigitLimit := by
  have run : ∀ d ∈ rest.takeWhile isDigit, isDigit d = true :=
    fun d member => List.mem_takeWhile_imp member
  rcases first with digit | ⟨rfl, starts⟩
  · have digits : ∀ d ∈ c :: rest.takeWhile isDigit, isDigit d = true := by simpa using ⟨digit, run⟩
    obtain ⟨readable, rfl⟩ := (Text.readInteger_run digits (by simp)).1.mp read
    exact Text.magnitude_lt readable
  · have nonempty := takeWhile_isDigit_ne_nil starts
    obtain ⟨readable, rfl⟩ := (Text.readInteger_run run nonempty).2.mp read
    rw [Int.natAbs_neg, Int.natAbs_natCast]
    exact Text.magnitude_lt readable

/-- A run that is as long as the front of a text is that front. -/
theorem takeWhile_front {p : Char → Bool} {body cs : List Char}
    (count : ((body ++ cs).takeWhile p).length = body.length) :
    (body ++ cs).takeWhile p = body := by
  have front := List.prefix_iff_eq_take.mp (List.takeWhile_prefix p (l := body ++ cs))
  rwa [count, List.take_left] at front

/-- A name among the tokens is a word, and a number has few enough digits to be written again. -/
theorem Prefix.shape {p q : Nat} {cs rest : List Char} {ts : List Token}
    (h : Prefix p cs ts q rest) :
    ∀ t ∈ ts, (t.kind = .name → Word t.text) ∧
      ∀ value, t.kind = .number value → value.natAbs < 10 ^ Text.integerDigitLimit := by
  induction h with
  | done => simp
  | blank _ _ ih => exact ih
  | @token p q c body cs rest kind ts visible read more ih =>
    refine List.forall_mem_cons.mpr ⟨?_, ih⟩
    have spelled := lexeme_sound read
    generalize count : body.length = n at spelled
    constructor
    · intro word
      cases spelled with
      | name first plain notDigit =>
        have run := takeWhile_front count.symm
        refine .intro visible first plain notDigit fun d member => ?_
        rw [← run] at member
        exact List.mem_takeWhile_imp member
      | _ => cases word
    · intro value number
      cases spelled with
      | number first digits =>
        cases number
        exact readInteger_bound first digits
      | _ => cases number

end WideColumn.Filter
