import WideColumn.Proofs.Bytes.Utf8
import WideColumn.Value.Encoding

/-! Spellings of byte strings. A spelling has an escape for a byte or the byte itself, and a
backslash that stands for itself must not look like the beginning of an escape. Decoding looks at
each byte of a text once, so every text is the spelling of what it is decoded to, and of nothing
else. -/
namespace WideColumn.Bytes

/-- A hexadecimal digit and its value, in either case. -/
inductive HexDigit (n : Nat) (d : UInt8) : Prop
  | figure (small : n < 10) (code : d.toNat = 0x30 + n)
  | lower (large : 10 ≤ n) (small : n < 16) (code : d.toNat = 0x61 + (n - 10))
  | upper (large : 10 ≤ n) (small : n < 16) (code : d.toNat = 0x41 + (n - 10))

/-- What makes an escape of the backslash before it: an `x` and two hexadecimal digits. -/
def Escapes (text : Bytes) : Prop :=
  ∃ high low h l rest, HexDigit high h ∧ HexDigit low l ∧ text = 0x78 :: h :: l :: rest

/-- A byte string, and a text that spells it. -/
inductive Spelling : Bytes → Bytes → Prop
  | done : Spelling [] []
  | escaped {high low : Nat} {h l : UInt8} {b text : Bytes} (isHigh : HexDigit high h)
      (isLow : HexDigit low l) (more : Spelling b text) :
      Spelling (.ofNat (16 * high + low) :: b) (0x5c :: 0x78 :: h :: l :: text)
  | itself {x : UInt8} {b text : Bytes} (lone : x = 0x5c → ¬ Escapes text)
      (more : Spelling b text) : Spelling (x :: b) (x :: text)

variable {b text : Bytes}

/-! Digits. -/

theorem hexValue?_ofNat {n : Nat} (small : n < 0xd800) : hexValue? (Char.ofNat n) =
    if 0x30 ≤ n ∧ n ≤ 0x39 then some (n - 0x30)
    else if 0x61 ≤ n ∧ n ≤ 0x66 then some (n - 0x57)
    else if 0x41 ≤ n ∧ n ≤ 0x46 then some (n - 0x37)
    else none := by
  have code := Utf8.toNat_charOfNat small
  simp only [hexValue?, Char.le_def, UInt32.le_iff_toNat_le, Char.toNat_val, code]
  rfl

theorem hexValue?_eq_some_iff {n : Nat} {d : UInt8} :
    hexValue? (Char.ofNat d.toNat) = some n ↔ HexDigit n d := by
  have byte := d.toNat_lt
  rw [hexValue?_ofNat (by omega)]
  constructor
  · intro found
    split at found
    · obtain rfl := Option.some.inj found
      exact .figure (by omega) (by omega)
    · split at found
      · obtain rfl := Option.some.inj found
        exact .lower (by omega) (by omega) (by omega)
      · split at found
        · obtain rfl := Option.some.inj found
          exact .upper (by omega) (by omega) (by omega)
        · cases found
  · intro digit
    cases digit with
    | figure small code =>
      rw [if_pos (by omega)]
      exact congrArg some (by omega)
    | lower large small code =>
      rw [if_neg (by omega), if_pos (by omega)]
      exact congrArg some (by omega)
    | upper large small code =>
      rw [if_neg (by omega), if_neg (by omega), if_pos (by omega)]
      exact congrArg some (by omega)

theorem HexDigit.ascii {n : Nat} {d : UInt8} (digit : HexDigit n d) : d.toNat < 0x80 := by
  cases digit with
  | figure small code => omega
  | lower large small code => omega
  | upper large small code => omega

theorem exists_hexDigit {n : Nat} (small : n < 16) : ∃ d, HexDigit n d := by
  by_cases figure : n < 10
  · exact ⟨.ofNat (0x30 + n), .figure figure (Utf8.toNat_ofNat (by omega))⟩
  · exact ⟨.ofNat (0x61 + (n - 10)), .lower (by omega) small (Utf8.toNat_ofNat (by omega))⟩

/-! Decoding. -/

theorem unescape_escaped {high low : Nat} {h l : UInt8} (isHigh : HexDigit high h)
    (isLow : HexDigit low l) (rest : Bytes) : unescape (0x5c :: 0x78 :: h :: l :: rest) =
      .ofNat (16 * high + low) :: unescape rest := by
  rw [unescape, if_pos ⟨rfl, rfl⟩, hexValue?_eq_some_iff.mpr isHigh,
    hexValue?_eq_some_iff.mpr isLow]

theorem unescape_itself {x : UInt8} {rest : Bytes} (lone : x = 0x5c → ¬ Escapes rest) :
    unescape (x :: rest) = x :: unescape rest := by
  match rest with
  | [] | [_] | [_, _] => rfl
  | y :: h :: l :: rest =>
    rw [unescape]
    split
    · next starts =>
      obtain ⟨rfl, rfl⟩ := starts
      split
      · next high low isHigh isLow =>
        have escapes : Escapes (0x78 :: h :: l :: rest) := ⟨high, low, h, l, rest,
          hexValue?_eq_some_iff.mp isHigh, hexValue?_eq_some_iff.mp isLow, rfl⟩
        exact absurd escapes (lone rfl)
      · rfl
    · rfl

theorem Spelling.unescape_eq (spelling : Spelling b text) : unescape text = b := by
  induction spelling with
  | done => rfl
  | escaped isHigh isLow _ ih => rw [unescape_escaped isHigh isLow, ih]
  | itself lone _ ih => rw [unescape_itself lone, ih]

theorem spelling_unescape (text : Bytes) : Spelling (unescape text) text := by
  match text with
  | [] => exact .done
  | x :: rest =>
    by_cases escape : x = 0x5c ∧ Escapes rest
    · obtain ⟨rfl, high, low, h, l, rest, isHigh, isLow, rfl⟩ := escape
      rw [unescape_escaped isHigh isLow]
      exact .escaped isHigh isLow (spelling_unescape rest)
    · have lone : x = 0x5c → ¬ Escapes rest := not_and.mp escape
      rw [unescape_itself lone]
      exact .itself lone (spelling_unescape rest)
  termination_by text.length

theorem exists_ascii_spelling (b : Bytes) :
    ∃ text, Spelling b text ∧ ∀ x ∈ text, x.toNat < 0x80 := by
  induction b with
  | nil => exact ⟨[], .done, nofun⟩
  | cons x b ih =>
    obtain ⟨text, spelling, ascii⟩ := ih
    have byte := x.toNat_lt
    obtain ⟨h, isHigh⟩ := exists_hexDigit (n := x.toNat / 16) (by omega)
    obtain ⟨l, isLow⟩ := exists_hexDigit (n := x.toNat % 16) (by omega)
    have same : UInt8.ofNat (16 * (x.toNat / 16) + x.toNat % 16) = x := by
      rw [Nat.div_add_mod, UInt8.ofNat_toNat]
    have escaped := Spelling.escaped isHigh isLow spelling
    rw [same] at escaped
    refine ⟨_, escaped, ?_⟩
    simp only [List.forall_mem_cons]
    exact ⟨by decide, by decide, isHigh.ascii, isLow.ascii, ascii⟩

/-- A text is a spelling of the byte string that it is decoded to, and of no other one; what is no
escape in it stays. Every byte string has a spelling in ASCII, and row keys are read in this way. -/
theorem unescape_inverts :
    (∀ b text, unescape text = b ↔ Spelling b text) ∧
    (∀ b, ∃ s : String, (∀ c ∈ s.toList, c.toNat < 0x80) ∧ unescape (Utf8.ofString s) = b) ∧
    ∀ b s, (Value.text s).encodeRowKey .binary = b ↔ Spelling b (Utf8.ofString s) := by
  have inverts : ∀ b text, unescape text = b ↔ Spelling b text := by
    intro b text
    constructor
    · rintro rfl
      exact spelling_unescape text
    · exact Spelling.unescape_eq
  refine ⟨inverts, ?_, ?_⟩
  · intro b
    obtain ⟨text, spelling, ascii⟩ := exists_ascii_spelling b
    refine ⟨String.ofList (text.map fun x => Char.ofNat x.toNat), ?_, ?_⟩
    · rw [String.toList_ofList, List.forall_mem_map]
      intro x member
      rw [Utf8.toNat_charOfNat (Nat.lt_trans (ascii x member) (by decide))]
      exact ascii x member
    · rw [Utf8.ofString, String.toList_ofList, Utf8.encode_ascii ascii, spelling.unescape_eq]
  · intro b s
    exact inverts b (Utf8.ofString s)

/-- A backslash that comes out of an escape begins no other one, and an escape that is cut off or
has another letter in it stays. -/
example : unescape (Utf8.ofString "\\x5Cx41\\x4g\\x4") = Utf8.ofString "\\x41\\x4g\\x4" := by decide

end WideColumn.Bytes
