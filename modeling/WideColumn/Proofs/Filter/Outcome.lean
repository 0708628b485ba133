import WideColumn.Proofs.Filter.Completeness
import WideColumn.Proofs.Filter.Scanning
import WideColumn.Service.Scan

/-! How a parse can end. Over a table whose kinds all have names it gives a tree or a rejection,
unless scanning comes to a number that cannot be read. -/
namespace WideColumn.Filter

open Text (isBlank isDigit)

/-- A number starts here that cannot be read: one of its digits has no decimal value, or there are
too many of them. -/
inductive UnreadableNumber : List Char → Prop
  | unsigned {c : Char} {rest : List Char} (first : isDigit c = true)
      (unreadable : ¬ Text.Readable (c :: rest.takeWhile isDigit)) : UnreadableNumber (c :: rest)
  | negative {rest : List Char} (first : startsWithDigit rest = true)
      (unreadable : ¬ Text.Readable (rest.takeWhile isDigit)) : UnreadableNumber ('-' :: rest)

/-- Behind the tokens at the front of a text stands a number that cannot be read. -/
def HasUnreadableNumber (cs : List Char) : Prop :=
  ∃ ts q rest, Prefix 0 cs ts q rest ∧ UnreadableNumber rest

/-- The first character of a number: a digit, or a minus sign with a digit behind it. -/
abbrev StartsNumber (c : Char) (rest : List Char) : Prop :=
  isDigit c = true ∨ c = '-' ∧ startsWithDigit rest = true

theorem UnreadableNumber.starts {c : Char} {rest : List Char} (h : UnreadableNumber (c :: rest)) :
    StartsNumber c rest := by
  cases h with
  | unsigned first => exact .inl first
  | negative first => exact .inr ⟨rfl, first⟩

theorem unreadableNumber_iff {c : Char} {rest : List Char} (first : StartsNumber c rest) :
    UnreadableNumber (c :: rest) ↔
      ∀ n, Text.readInteger (c :: rest.takeWhile isDigit) ≠ .ok n := by
  have run : ∀ d ∈ rest.takeWhile isDigit, isDigit d = true :=
    fun d member => List.mem_takeWhile_imp member
  have minus : isDigit '-' = false := not_isDigit_of_mem (by decide)
  rcases first with digit | ⟨rfl, starts⟩
  · have digits : ∀ d ∈ c :: rest.takeWhile isDigit, isDigit d = true := by simpa using ⟨digit, run⟩
    have read := fun n => (Text.readInteger_run (n := n) digits (by simp)).1
    constructor
    · intro h n same
      cases h with
      | unsigned _ unreadable => exact unreadable ((read n).mp same).1
      | negative => simp [minus] at digit
    · intro h
      exact .unsigned digit fun readable => h _ ((read _).mpr ⟨readable, rfl⟩)
  · have nonempty := takeWhile_isDigit_ne_nil starts
    have read := fun n => (Text.readInteger_run (n := n) run nonempty).2
    constructor
    · intro h n same
      cases h with
      | unsigned digit => simp [minus] at digit
      | negative _ unreadable => exact unreadable ((read n).mp same).1
    · intro h
      exact .negative starts fun readable => h _ ((read _).mpr ⟨readable, rfl⟩)

theorem StartsNumber.plain {c : Char} {rest : List Char} (first : StartsNumber c rest) :
    c ∉ ['(', ')', ',', '\''] ∧ isBlank c = false := by
  rcases first with digit | ⟨rfl, -⟩
  · refine ⟨fun member => ?_, Text.not_isBlank_of_isDigit digit⟩
    have other : isDigit c = false := not_isDigit_of_mem (List.mem_append_left [' ', '-'] member)
    simp [other] at digit
  · exact ⟨by decide, by decide +kernel⟩

/-- What starts like a number is read as one, to the end of its digits. -/
theorem lexeme_number {c : Char} {rest : List Char} (first : StartsNumber c rest) :
    lexeme c rest = ((Text.readInteger (c :: rest.takeWhile isDigit)).mapError .number).map
      fun value => (.number value, (rest.takeWhile isDigit).length) := by
  have plain := first.plain.1
  simp only [List.mem_cons, List.not_mem_nil, or_false, not_or] at plain
  have starts : (isDigit c || decide (c = '-') && startsWithDigit rest) = true := by
    simpa using first
  simp only [lexeme, plain, starts, if_true, if_false]
  cases Text.readInteger (c :: rest.takeWhile isDigit) <;> rfl

/-- The only lexemes that fail in this way are numbers that cannot be read. -/
theorem lexeme_eq_number_error_iff {c : Char} {rest : List Char} :
    (∃ e, lexeme c rest = .error (.number e)) ↔ UnreadableNumber (c :: rest) := by
  constructor
  · rintro ⟨e, failed⟩
    unfold lexeme at failed
    split at failed
    · cases failed
    split at failed
    · cases failed
    split at failed
    · cases failed
    split at failed
    · split at failed <;> cases failed
    split at failed
    · next first =>
      have starts : StartsNumber c rest := by simpa using first
      refine (unreadableNumber_iff starts).mpr fun n same => ?_
      simp [same] at failed
    · split at failed
      · cases failed
      · split at failed <;> cases failed
  · intro unreadable
    have first := unreadable.starts
    have none := (unreadableNumber_iff first).mp unreadable
    rw [lexeme_number first]
    cases same : Text.readInteger (c :: rest.takeWhile isDigit) with
    | ok n => exact absurd same (none n)
    | error e => exact ⟨e, rfl⟩

theorem scan_eq_number_error_iff {cs : List Char} :
    (∃ e, scan cs = .error (.number e)) ↔ HasUnreadableNumber cs := by
  constructor
  · rintro ⟨e, failed⟩
    rcases scanAfter_outcome 0 0 cs (Nat.zero_le _) with ⟨ts, q, -, scanned⟩ | stopped
    · cases failed.symm.trans scanned
    · obtain ⟨ts, q, c, rest, error, read, unread, same⟩ := stopped
      cases error with
      | reason => cases failed.symm.trans same
      | number e => exact ⟨ts, q, _, read, lexeme_eq_number_error_iff.mp ⟨e, unread⟩⟩
  · rintro ⟨ts, q, rest, read, unreadable⟩
    have scanned := read.scanned
    cases rest with
    | nil => cases unreadable
    | cons c rest =>
      obtain ⟨e, failed⟩ := lexeme_eq_number_error_iff.mpr unreadable
      have visible := unreadable.starts.plain.2
      simp only [scanAfter, visible, Bool.false_eq_true, if_false, failed] at scanned
      exact ⟨e, scanned⟩

theorem scan_settled {cs : List Char} (readable : ¬ HasUnreadableNumber cs) :
    Settled (scan cs) := by
  rcases scanAfter_outcome 0 0 cs (Nat.zero_le _) with ⟨ts, q, -, scanned⟩ | stopped
  · exact .inl ⟨ts, scanned⟩
  · obtain ⟨ts, q, c, rest, error, -, -, failed⟩ := stopped
    cases error with
    | reason r => exact .inr ⟨_, failed⟩
    | number e => exact absurd (scan_eq_number_error_iff.mp ⟨e, failed⟩) readable

/-! The parser on tokens, over a table whose kinds all have names. -/

theorem endsNameless_of_kindNames {s : Signature} (named : "" ∉ s.kindNames) :
    s.endsNameless = false := by
  refine Bool.eq_false_iff.mpr fun nameless => named ?_
  simp only [Signature.endsNameless, Bool.and_eq_true, decide_eq_true_eq] at nameless
  have last : ArgKind.other "" ∈ s.fixed := List.mem_of_getLast? nameless.2
  exact List.mem_append_left _ (List.mem_map.mpr ⟨_, last, rfl⟩)

/-- All kinds of the signatures in a table have names. -/
def Table.Named (table : Table) : Prop :=
  ∀ name signatures, table.get? name = some signatures → ∀ s ∈ signatures, "" ∉ s.kindNames

theorem expect_settled (kind : TokenKind) (what : String) (finish : Nat) (ts : List Token) :
    Settled (expect kind what finish ts) := by
  unfold expect
  split
  · split <;> simp
  · simp

theorem moreArguments_settled (finish : Nat) (ts : List Token) :
    Settled (moreArguments finish ts) := by
  induction ts using moreArguments.induct with
  | case1 => simp [moreArguments]
  | case2 comma separator a rest argument ih =>
    simpa [moreArguments, separator, argument] using ih.map _
  | case3 comma separator a rest refused => simp [moreArguments, separator, refused]
  | case4 comma separator => simp [moreArguments, separator]
  | case5 t ts other =>
    rw [Grammar.moreArguments_stop other]
    simp

theorem arguments_settled (finish : Nat) (ts : List Token) : Settled (arguments finish ts) := by
  unfold arguments
  split
  · simp
  · refine Settled.bind ?_ fun first _ => ?_
    · unfold argument
      split
      · split <;> simp
      · simp
    · exact (moreArguments_settled finish first.2).bind fun more _ => settled_ok _

variable {table : Table}

theorem call_settled (named : table.Named) (finish : Nat) (name : Token) (ts : List Token) :
    Settled (call table finish name ts) := by
  unfold call
  dsimp only
  split
  · simp
  split
  · simp
  next signatures known =>
  have told : ∀ s ∈ signatures, s.endsNameless = false :=
    fun s member => endsNameless_of_kindNames (named _ _ known s member)
  refine (expect_settled ..).bind fun inside _ => ?_
  refine (arguments_settled ..).bind fun args _ => ?_
  refine (expect_settled ..).bind fun rest _ => ?_
  exact (bindArguments_settled told ..).bind fun bound _ => settled_ok _

mutual

theorem disjunction_settled (named : table.Named) (finish : Nat) :
    ∀ depth ts, Settled (disjunction table finish depth ts)
  | 0, ts => by simp [disjunction]
  | depth + 1, ts =>
    (conjunction_settled named finish depth ts).bind fun first _ =>
      (moreDisjuncts_settled named finish depth first.2).bind fun more _ => settled_ok _

theorem moreDisjuncts_settled (named : table.Named) (finish : Nat) :
    ∀ depth ts, Settled (moreDisjuncts table finish depth ts)
  | 0, ts => by simp [moreDisjuncts]
  | depth + 1, ts => by
    simp only [moreDisjuncts]
    split
    · exact (conjunction_settled named finish depth ts.tail).bind fun first _ =>
        (moreDisjuncts_settled named finish depth first.2).bind fun more _ => settled_ok _
    · simp

theorem conjunction_settled (named : table.Named) (finish : Nat) :
    ∀ depth ts, Settled (conjunction table finish depth ts)
  | 0, ts => by simp [conjunction]
  | depth + 1, ts =>
    (unary_settled named finish depth ts).bind fun first _ =>
      (moreConjuncts_settled named finish depth first.2).bind fun more _ => settled_ok _

theorem moreConjuncts_settled (named : table.Named) (finish : Nat) :
    ∀ depth ts, Settled (moreConjuncts table finish depth ts)
  | 0, ts => by simp [moreConjuncts]
  | depth + 1, ts => by
    simp only [moreConjuncts]
    split
    · exact (unary_settled named finish depth ts.tail).bind fun first _ =>
        (moreConjuncts_settled named finish depth first.2).bind fun more _ => settled_ok _
    · simp

theorem unary_settled (named : table.Named) (finish : Nat) :
    ∀ depth ts, Settled (unary table finish depth ts)
  | 0, ts => by simp [unary]
  | depth + 1, [] => by simp [unary]
  | depth + 1, t :: rest => by
    simp only [unary]
    split
    · exact (unary_settled named finish depth rest).map _
    · split
      · exact (disjunction_settled named finish depth rest).bind fun inside _ =>
          (expect_settled ..).bind fun closed _ => settled_ok _
      · exact call_settled named finish t rest
      · simp

end

theorem parseTokens_settled (named : table.Named) (finish : Nat) (ts : List Token) :
    Settled (parseTokens table finish ts) := by
  unfold parseTokens
  rcases disjunction_settled named finish (depthFor ts.length) ts with
    ⟨⟨n, rest⟩, read⟩ | ⟨r, failed⟩
  · rw [read]
    cases rest <;> simp
  · rw [failed]
    exact .inr ⟨r, rfl⟩

theorem parse_eq_none_iff {cs : List Char} :
    parse table cs = .ok none ↔ Text.isBlankText cs = true := by
  unfold parse
  split
  · next blank => simp [blank]
  · next visible =>
    simp only [visible]
    split
    · simp
    · simp [map_eq_ok_iff]

theorem parse_eq_number_error_iff (named : table.Named) {cs : List Char} :
    (∃ e, parse table cs = .error (.number e)) ↔ HasUnreadableNumber cs := by
  rw [← scan_eq_number_error_iff]
  unfold parse
  split
  · next blank => simp [scan, Grammar.scanAfter_blank blank]
  · cases scanned : scan cs with
    | error e => simp
    | ok ts =>
      rcases parseTokens_settled named cs.length ts with ⟨n, read⟩ | ⟨r, failed⟩
      · simp [read, Except.map]
      · simp [failed, Except.map]

theorem parse_settled (named : table.Named) {cs : List Char} (readable : ¬ HasUnreadableNumber cs) :
    Settled (parse table cs) := by
  unfold parse
  split
  · simp
  · rcases scan_settled readable with ⟨ts, scanned⟩ | ⟨r, failed⟩
    · rw [scanned]
      exact (parseTokens_settled named cs.length ts).map _
    · rw [failed]
      exact .inr ⟨r, rfl⟩

/-- The raising form gives what the parser gives, and raises what it fails with. -/
theorem parseFilter_apply {expression : String} {c : Client} :
    Client.parseFilter (some expression) c =
      ((parse c.service.filters expression.toList).mapError (Fault.ofFilter expression), c) := by
  have read : (Action.get : Action Client Client) c = (.ok c, c) := rfl
  unfold Client.parseFilter
  rw [Action.bind_of_ok read]
  dsimp only [Option.getD_some]
  cases parse c.service.filters expression.toList <;> rfl

/-- Over a table whose kinds all have names, a text has no filter exactly when it is blank; parsing
fails with the fault of a number exactly when scanning comes to one that cannot be read; and
otherwise it gives a tree or a rejection, which the raising form returns or raises. -/
theorem parse_outcome {table : Table} (named : table.Named) (expression : String) :
    (parse table expression.toList = .ok none ↔ Text.isBlankText expression.toList = true) ∧
      ((∃ e, parse table expression.toList = .error (.number e)) ↔
        HasUnreadableNumber expression.toList) ∧
      (¬ HasUnreadableNumber expression.toList →
        (∃ filter, parse table expression.toList = .ok filter ∧ ∀ c, c.service.filters = table →
          Client.parseFilter (some expression) c = (.ok filter, c)) ∨
        ∃ rejection, parse table expression.toList = .error (.rejected rejection) ∧
          ∀ c, c.service.filters = table → Client.parseFilter (some expression) c =
            (.error (.invalidFilter expression rejection), c)) := by
  refine ⟨parse_eq_none_iff, parse_eq_number_error_iff named, fun readable => ?_⟩
  rcases parse_settled named readable with ⟨filter, parsed⟩ | ⟨rejection, rejected⟩
  · refine .inl ⟨filter, parsed, ?_⟩
    rintro c rfl
    rw [parseFilter_apply, parsed]
    rfl
  · refine .inr ⟨rejection, rejected, ?_⟩
    rintro c rfl
    rw [parseFilter_apply, rejected]
    rfl

theorem mem_of_find? {α β : Type} [DecidableEq α] {key : α} {value : β} {entries : List (α × β)}
    (h : OrderedMap.find? key entries = some value) : (key, value) ∈ entries := by
  induction entries with
  | nil => cases h
  | cons e rest ih =>
    obtain ⟨k, v⟩ := e
    simp only [OrderedMap.find?] at h
    split at h
    · next same =>
      cases h
      simp [same]
    · exact List.mem_cons_of_mem _ (ih h)

theorem named_default : Table.default.Named := by
  intro name signatures known
  have all : ∀ e ∈ Table.default.entries, ∀ s ∈ e.2, "" ∉ s.kindNames := by decide +kernel
  exact all _ (mem_of_find? known)

/-- A superscript looks like a digit but has no decimal value, so the parser neither gives a tree
nor rejects the text. A call that is not closed is rejected. -/
theorem parse_outcome_superscript :
    (∃ e, parse Table.default "PageFilter (²)".toList = .error (.number e)) ∧
      ∃ rejection, parse Table.default "PageFilter (2".toList = .error (.rejected rejection) := by
  constructor
  · refine (parse_outcome named_default "PageFilter (²)").2.1.mpr ?_
    have failed : (match scan "PageFilter (²)".toList with
        | .error (.number _) => true
        | _ => false) = true := by decide +kernel
    split at failed
    · next e scanned => exact scan_eq_number_error_iff.mp ⟨e, scanned⟩
    · cases failed
  · have scanned : (scan "PageFilter (2".toList).toOption = some
        [⟨.name, "PageFilter".toList, 0⟩, ⟨.leftParen, ['('], 11⟩, ⟨.number 2, ['2'], 12⟩] := by
      decide +kernel
    have readable : ¬ HasUnreadableNumber "PageFilter (2".toList := by
      rw [← scan_eq_number_error_iff, toOption_eq_some scanned]
      simp
    have failed : (parse Table.default "PageFilter (2".toList).toOption.isNone = true := by
      decide +kernel
    rcases (parse_outcome named_default "PageFilter (2").2.2 readable with
      ⟨filter, parsed, -⟩ | ⟨rejection, rejected, -⟩
    · rw [parsed] at failed
      cases failed
    · exact ⟨rejection, rejected⟩

end WideColumn.Filter
