import WideColumn.Xml.Declaration

/-!
From the bytes of a document to its text. The first bytes tell how wide characters are, and the
declaration may name an encoding of that width.
-/
namespace WideColumn.Xml

/-- Why an encoding cannot be used for a document, apart from the document itself. -/
inductive EncodingIssue
  | unknown (name : String)
  | wide
  | notText (name : String)
  | strict (name reason : String)
  | notAscii
  deriving DecidableEq, Repr

def EncodingIssue.message : EncodingIssue → String
  | unknown name => "unknown encoding: " ++ name
  | wide => "multi-byte encodings are not supported"
  | notText name =>
    "'" ++ name ++
      "' is not a text encoding; use codecs.decode() to handle arbitrary codecs"
  | strict name reason =>
    "decoding with '" ++ name ++ "' codec failed (UnicodeError: " ++ reason ++ ")"
  | notAscii =>
    "'ascii' codec can't decode byte 0x80 in position 82: ordinal not in range(128)"

/-- Why a document cannot be read: it is not well-formed at a line and a column, or its encoding
cannot be used. -/
inductive Error
  | notWellFormed (problem : Problem) (line column : Nat)
  | encoding (issue : EncodingIssue)
  deriving DecidableEq, Repr

def Error.message : Error → String
  | notWellFormed problem line column =>
    problem.describe ++ ": line " ++ String.ofList (Text.natural line) ++ ", column " ++
      String.ofList (Text.natural column)
  | encoding issue => issue.message

namespace Encoding

/-- The encoding of a name that not every document may declare, or what is wrong with it. -/
def registered (name : List Char) : Except (EncodingIssue ⊕ Problem) Encoding :=
  let shown := String.ofList name
  match Text.CharacterSet.find? name with
  | none => .error (.inl (.unknown shown))
  | some (.single upper missing) => .ok (single upper missing)
  | some .unfit => .error (.inr .unknownEncoding)
  | some .wide => .error (.inl .wide)
  | some .transform => .error (.inl (.notText shown))
  | some (.strict reason) => .error (.inl (.strict shown reason))
  | some .asciiOnly => .error (.inl .notAscii)

/-- The encoding to go on with after the declaration of a document that is read in another one. -/
def declared (current : Encoding) (name : List Char) :
    Except (EncodingIssue ⊕ Problem) Encoding :=
  let lower := String.ofList (name.map Char.toLower)
  if lower = "utf-16" then
    if current.width = 2 then .ok current else .error (.inr .incorrectEncoding)
  else
    match standard? lower with
    | some e =>
      if e.width = current.width && (e.width = 1 || e = current) then .ok e
      else .error (.inr .incorrectEncoding)
    | none => registered name

/-- What stands before the rest of a document for the count of places, once the encoding is known:
in a set of single bytes every byte counts, also those of the byte order mark. -/
def counted (e : Encoding) (before : Bytes) (text : List Char) : List Char :=
  match e with
  | latin | single .. => before.map fun x => Char.ofNat x.toNat
  | utf8 | utf16 _ => text

end Encoding

/-- The text of a document: its declaration, by which places are counted, what is left after it, how
that is written, and the number of bytes before it; and whether the document stands alone. -/
structure SourceText where
  declaration : List Char := []
  rest : List Char
  form : TextForm
  sizeBefore : Nat := 0
  isStandalone : Bool := false

def SourceText.ofBytes (b : Bytes) : Except Error SourceText := do
  if Encoding.isUndecided b then throw (.notWellFormed .unclosedToken 1 0)
  let (initial, mark) := Encoding.ofBytes b
  let text := initial.decode (b.drop mark)
  let start := fun (cs : List Char) => (if mark = 0 then [] else ['\ufeff']) ++ cs
  let formOf := fun (e : Encoding) (used : Nat) =>
    (⟨e, e.width = 2 && (b.length - used) % 2 = 1⟩ : TextForm)
  let fail := fun {α : Type} (f : Failure) =>
    let place := lineAndColumn (start (text.take (text.length - f.left)))
    (.error (.notWellFormed f.problem place.1 place.2) : Except Error α)
  match Declaration.read initial text with
  | .error f => fail f
  | .ok (none, _) =>
    return {
      declaration := start [], rest := text, form := formOf initial mark, sizeBefore := mark }
  | .ok (some d, rest) =>
    let used := mark + (text.length - rest.length) * initial.width
    let before := start (text.take (text.length - rest.length))
    let source : SourceText :=
      { declaration := before, rest, form := formOf initial used, sizeBefore := used
        isStandalone := d.isStandalone }
    match d.encoding with
    | none => return source
    | some (name, left) =>
      match initial.declared name with
      | .error (.inl issue) => throw (.encoding issue)
      | .error (.inr problem) => fail ⟨problem, left⟩
      | .ok e =>
        return { source with
          declaration := e.counted (b.take used) before
          rest := e.decode (b.drop used)
          form := formOf e used }

end WideColumn.Xml
