import WideColumn.Bytes.Utf8

/-! Decoding reads back every character that encoding writes, whatever follows it, so encoded text
has no ill-formed part and decodes to itself. -/
namespace WideColumn.Utf8

theorem encode_append (cs ds : List Char) : encode (cs ++ ds) = encode cs ++ encode ds :=
  List.flatMap_append

theorem toNat_range (c : Char) : c.toNat < 0xd800 ∨ 0xdfff < c.toNat ∧ c.toNat < 0x110000 := c.valid

theorem isContinuation_iff {b : UInt8} :
    isContinuation b = true ↔ 0x80 ≤ b.toNat ∧ b.toNat ≤ 0xbf := by
  simp [isContinuation, UInt8.le_iff_toNat_le]

theorem first_one {a : UInt8} (small : a.toNat < 0x80) (rest : Bytes) :
    first a rest = (some (Char.ofNat a.toNat), 0) := by
  simp [first, UInt8.lt_iff_toNat_lt, small]

theorem first_two {a b : UInt8} (leading : 0xc2 ≤ a.toNat ∧ a.toNat < 0xe0)
    (second : 0x80 ≤ b.toNat ∧ b.toNat ≤ 0xbf) (rest : Bytes) :
    first a (b :: rest) = (some (Char.ofNat (a.toNat % 32 * 64 + b.toNat % 64)), 1) := by
  have notOne : ¬ a.toNat < 128 := by omega
  have notBare : ¬ a.toNat < 194 := by omega
  simp [first, UInt8.lt_iff_toNat_lt, notOne, notBare, leading.2, isContinuation_iff.mpr second,
    payload]

/-- Enough for a second byte: it continues a character, and excludes overlong forms, surrogates and
code points above the last one. -/
theorem isSecond_of_bounds {a b : UInt8} (continues : 0x80 ≤ b.toNat ∧ b.toNat ≤ 0xbf)
    (short : (a.toNat = 0xe0 → 0xa0 ≤ b.toNat) ∧ (a.toNat = 0xf0 → 0x90 ≤ b.toNat))
    (valid : (a.toNat = 0xed → b.toNat ≤ 0x9f) ∧ (a.toNat = 0xf4 → b.toNat ≤ 0x8f)) :
    isSecond a b = true := by
  have low :
      (if a.toNat = 0xe0 then 0xa0 else if a.toNat = 0xf0 then 0x90 else 0x80) ≤ b.toNat := by
    repeat' split
    all_goals omega
  have high :
      b.toNat ≤ (if a.toNat = 0xed then 0x9f else if a.toNat = 0xf4 then 0x8f else 0xbf) := by
    repeat' split
    all_goals omega
  simpa [isSecond, UInt8.le_iff_toNat_le, apply_ite UInt8.toNat, ← UInt8.toNat_inj]
    using ⟨low, high⟩

theorem first_three {a b c : UInt8} (leading : 0xe0 ≤ a.toNat ∧ a.toNat < 0xf0)
    (second : isSecond a b = true) (third : 0x80 ≤ c.toNat ∧ c.toNat ≤ 0xbf) (rest : Bytes) :
    first a (b :: c :: rest) =
      (some (Char.ofNat (a.toNat % 16 * 4096 + b.toNat % 64 * 64 + c.toNat % 64)), 2) := by
  have notOne : ¬ a.toNat < 128 := by omega
  have notBare : ¬ a.toNat < 194 := by omega
  have notTwo : ¬ a.toNat < 224 := by omega
  simp [first, UInt8.lt_iff_toNat_lt, notOne, notBare, notTwo, leading.2, second,
    isContinuation_iff.mpr third, payload]

theorem first_four {a b c d : UInt8} (leading : 0xf0 ≤ a.toNat ∧ a.toNat < 0xf5)
    (second : isSecond a b = true) (third : 0x80 ≤ c.toNat ∧ c.toNat ≤ 0xbf)
    (fourth : 0x80 ≤ d.toNat ∧ d.toNat ≤ 0xbf) (rest : Bytes) :
    first a (b :: c :: d :: rest) = (some (Char.ofNat (a.toNat % 8 * 262144 + b.toNat % 64 * 4096 +
      c.toNat % 64 * 64 + d.toNat % 64)), 3) := by
  have notOne : ¬ a.toNat < 128 := by omega
  have notBare : ¬ a.toNat < 194 := by omega
  have notTwo : ¬ a.toNat < 224 := by omega
  have notThree : ¬ a.toNat < 240 := by omega
  simp [first, UInt8.lt_iff_toNat_lt, notOne, notBare, notTwo, notThree, leading.2, second,
    isContinuation_iff.mpr third, isContinuation_iff.mpr fourth, payload]

theorem toNat_ofNat {n : Nat} (small : n < 256) : (UInt8.ofNat n).toNat = n :=
  UInt8.toNat_ofNat_of_lt' small

/-- The cases are the four lengths of a character. -/
theorem first_encodeChar (c : Char) (rest : Bytes) :
    ∃ a more, String.utf8EncodeChar c = a :: more ∧
      first a (more ++ rest) = (some c, more.length) := by
  have range := toNat_range c
  have val : c.val.toNat = c.toNat := rfl
  have back : ∀ n, n = c.toNat → Char.ofNat n = c := by
    rintro n rfl
    exact Char.ofNat_toNat c
  have last := toNat_ofNat (n := c.toNat % 64 + 0x80) (by omega)
  have middle := toNat_ofNat (n := c.toNat / 64 % 64 + 0x80) (by omega)
  have inner := toNat_ofNat (n := c.toNat / 4096 % 64 + 0x80) (by omega)
  by_cases one : c.toNat ≤ 0x7f
  · have lead := toNat_ofNat (n := c.toNat) (by omega)
    refine ⟨_, [], by simp only [String.utf8EncodeChar, val, one, if_true]; rfl, ?_⟩
    rw [List.nil_append, first_one (by omega), back _ (by omega)]
    rfl
  by_cases two : c.toNat ≤ 0x7ff
  · have lead := toNat_ofNat (n := c.toNat / 64 % 32 + 0xc0) (by omega)
    refine ⟨_, [_], by simp only [String.utf8EncodeChar, val, one, two, if_true, if_false]; rfl, ?_⟩
    rw [List.cons_append, first_two (by omega) (by omega), back _ (by omega)]
    rfl
  by_cases three : c.toNat ≤ 0xffff
  · have lead := toNat_ofNat (n := c.toNat / 4096 % 16 + 0xe0) (by omega)
    refine ⟨_, [_, _], by
      simp only [String.utf8EncodeChar, val, one, two, three, if_true, if_false]; rfl, ?_⟩
    have second := isSecond_of_bounds (a := .ofNat (c.toNat / 4096 % 16 + 0xe0))
      (b := .ofNat (c.toNat / 64 % 64 + 0x80)) (by omega) (by omega) (by omega)
    rw [List.cons_append, List.cons_append, first_three (by omega) second (by omega),
      back _ (by omega)]
    rfl
  · have lead := toNat_ofNat (n := c.toNat / 262144 % 8 + 0xf0) (by omega)
    refine ⟨_, [_, _, _], by
      simp only [String.utf8EncodeChar, val, one, two, three, if_false]; rfl, ?_⟩
    have second := isSecond_of_bounds (a := .ofNat (c.toNat / 262144 % 8 + 0xf0))
      (b := .ofNat (c.toNat / 4096 % 64 + 0x80)) (by omega) (by omega) (by omega)
    rw [List.cons_append, List.cons_append, List.cons_append,
      first_four (by omega) second (by omega) (by omega), back _ (by omega)]
    rfl

/-- A byte below 0x80 is a character of its own. -/
theorem toNat_of_mem_encodeChar {c : Char} {a : UInt8} (member : a ∈ String.utf8EncodeChar c)
    (ascii : a.toNat < 0x80) : c.toNat = a.toNat := by
  have range := toNat_range c
  have val : c.val.toNat = c.toNat := rfl
  have large : ∀ n, 0x80 ≤ n → n < 256 → a ≠ UInt8.ofNat n := by
    rintro n low high rfl
    rw [toNat_ofNat high] at ascii
    omega
  simp only [String.utf8EncodeChar, val] at member
  split at member
  · rw [List.mem_singleton.mp member, toNat_ofNat (by omega)]
  · refine absurd member ?_
    repeat' split
    all_goals
      simp only [List.mem_cons, List.not_mem_nil, or_false, not_or]
      repeat' constructor
    all_goals exact large _ (by omega) (by omega)

theorem partsAfter_append (skipped rest : Bytes) :
    partsAfter skipped.length (skipped ++ rest) = partsAfter 0 rest := by
  induction skipped with
  | nil => rfl
  | cons b skipped ih => exact ih

theorem parts_encode (cs : List Char) : parts (encode cs) = cs.map .ok := by
  induction cs with
  | nil => rfl
  | cons c cs ih =>
    obtain ⟨a, more, bytes, head⟩ := first_encodeChar c (encode cs)
    have spelled : encode (c :: cs) = a :: (more ++ encode cs) := by
      rw [encode, List.flatMap_cons, bytes]
      rfl
    rw [spelled, parts, partsAfter, head]
    change .ok c :: partsAfter more.length (more ++ encode cs) = .ok c :: cs.map .ok
    rw [partsAfter_append, ← ih, parts]

/-- Encoding loses nothing. -/
theorem decode?_encode (cs : List Char) : decode? (encode cs) = some cs := by
  rw [decode?, parts_encode]
  induction cs with
  | nil => rfl
  | cons c cs ih =>
    rw [List.map_cons, List.mapM_cons, ih]
    rfl

/-- Without ill-formed parts there is nothing to replace. -/
theorem decodeLossy_of_decode? {b : Bytes} {cs : List Char} (decoded : decode? b = some cs) :
    decodeLossy b = cs := by
  unfold decode? at decoded
  unfold decodeLossy
  generalize parts b = ps at decoded ⊢
  induction ps generalizing cs with
  | nil =>
    cases decoded
    rfl
  | cons part ps ih =>
    rw [List.mapM_cons] at decoded
    obtain ⟨c, head, decoded⟩ := Option.bind_eq_some_iff.mp decoded
    obtain ⟨rest, tail, same⟩ := Option.bind_eq_some_iff.mp decoded
    cases same
    rw [List.map_cons, head, ih tail]
    rfl

theorem decodeLossy_encode (cs : List Char) : decodeLossy (encode cs) = cs := by
  rw [decodeLossy, parts_encode, List.map_map]
  exact List.map_id cs

/-! ASCII. Ill-formed parts end before an ASCII character, so bytes can be taken apart at one. -/

theorem toNat_charOfNat {n : Nat} (small : n < 0xd800) : (Char.ofNat n).toNat = n := by
  have valid : n.isValidChar := .inl small
  rw [Char.ofNat, dif_pos valid]
  rfl

/-- ASCII bytes are the spelling of their characters. -/
theorem encode_ascii {b : Bytes} (ascii : ∀ x ∈ b, x.toNat < 0x80) :
    encode (b.map fun x => Char.ofNat x.toNat) = b := by
  induction b with
  | nil => rfl
  | cons x b ih =>
    obtain ⟨here, others⟩ := List.forall_mem_cons.mp ascii
    have code : (Char.ofNat x.toNat).val.toNat = x.toNat := toNat_charOfNat (by omega)
    have one : String.utf8EncodeChar (Char.ofNat x.toNat) = [x] := by
      simp only [String.utf8EncodeChar, code, Nat.le_of_lt_succ here, if_true, UInt8.ofNat_toNat]
    rw [List.map_cons, encode, List.flatMap_cons, one, ← encode, ih others]
    rfl

theorem first_le (a : UInt8) (rest : Bytes) : (first a rest).2 ≤ rest.length := by
  unfold first
  repeat' split
  all_goals simp

section

variable {b : UInt8} (ascii : b.toNat < 0x80)
include ascii

theorem isContinuation_ascii : isContinuation b = false := by
  rw [← Bool.not_eq_true, isContinuation_iff]
  omega

theorem isSecond_ascii (a : UInt8) : isSecond a b = false := by
  have low : ¬ (if a = 0xe0 then 0xa0 else if a = 0xf0 then 0x90 else 0x80 : UInt8) ≤ b := by
    rw [UInt8.le_iff_toNat_le]
    repeat' split
    all_goals
      simp only [UInt8.reduceToNat]
      omega
  simp [isSecond, low]

/-- No character and no ill-formed part reaches over an ASCII character behind it. -/
theorem first_append (a : UInt8) (rest more : Bytes) :
    first a (rest ++ b :: more) = first a rest := by
  have notContinuation := isContinuation_ascii ascii
  have notSecond := isSecond_ascii ascii a
  -- At most three bytes after the first one are looked at.
  match rest with
  | [] =>
    match more with
    | [] | [_] | _ :: _ :: _ => simp [first, notContinuation, notSecond]
  | [c] =>
    cases second : isSecond a c <;> cases more <;> simp [first, notContinuation, second]
  | [c, d] =>
    cases second : isSecond a c <;> cases third : isContinuation d <;>
      simp [first, notContinuation, second, third]
  | c :: d :: e :: rest => simp [first]

theorem partsAfter_append_ascii {skip : Nat} {front : Bytes} (inside : skip ≤ front.length)
    (more : Bytes) : partsAfter skip (front ++ b :: more) =
      partsAfter skip front ++ .ok (Char.ofNat b.toNat) :: parts more := by
  induction front generalizing skip with
  | nil =>
    obtain rfl : skip = 0 := Nat.le_zero.mp inside
    rw [List.nil_append, partsAfter.eq_3, first_one ascii]
    rfl
  | cons a front ih =>
    cases skip with
    | succ skip => exact ih (Nat.le_of_succ_le_succ inside)
    | zero =>
      have within := first_le a front
      rw [List.cons_append, partsAfter, first_append ascii, partsAfter]
      rcases read : first a front with ⟨c | c, n⟩
      · rw [read] at within
        simp [ih within, List.take_append_of_le_length within]
      · rw [read] at within
        simp [ih within]

/-- What is on the two sides of an ASCII character is decoded on its own. -/
theorem decode?_append_ascii (front more : Bytes) :
    decode? (front ++ b :: more) = (decode? front).bind fun s =>
      (decode? more).map fun t => s ++ Char.ofNat b.toNat :: t := by
  have cut : parts (front ++ b :: more) = parts front ++ .ok (Char.ofNat b.toNat) :: parts more :=
    partsAfter_append_ascii ascii (Nat.zero_le _) more
  rw [decode?, cut, List.mapM_append, List.mapM_cons, decode?, decode?]
  cases (parts front).mapM Except.toOption with
  | none => rfl
  | some s =>
    cases (parts more).mapM Except.toOption with
    | none => rfl
    | some t => rfl

end

end WideColumn.Utf8
