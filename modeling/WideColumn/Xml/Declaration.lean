import WideColumn.Xml.Lexeme

/-!
The declaration at the beginning of a document: its version, its encoding and whether it stands
alone, in this order. Only the version has to be there, and any version will do.
-/
namespace WideColumn.Xml

/-- A setting of a declaration. The numbers of characters left in the declaration tell the places of
its name and of its value. -/
structure Setting where
  name : List Char
  value : List Char
  nameLeft : Nat
  valueLeft : Nat
  deriving DecidableEq, Repr

namespace Setting

def isValueChar (c : Char) : Bool := c.isAlphanum || c = '.' || c = '-' || c = '_'

/-- A setting up to the end of its value. A place at which it cannot go on is an error. -/
def readAssigned (name : List Char) (nameLeft : Nat) (cs : List Char) :
    Except Nat (Setting × List Char) :=
  match skipSpace cs with
  | '=' :: rest =>
    match skipSpace rest with
    | quote :: rest =>
      if quote = '"' || quote = '\'' then
        let value := rest.takeWhile fun c => c ≠ quote && isValueChar c
        match rest.drop value.length with
        | [] => .error 0
        | c :: after =>
          if c = quote then .ok (⟨name, value, nameLeft, rest.length⟩, after)
          else .error (after.length + 1)
      else .error (rest.length + 1)
    | [] => .error 0
  | rest => .error rest.length

def read (cs : List Char) : Except Nat (Option (Setting × List Char)) :=
  match skipSpace cs with
  | [] => .ok none
  | here =>
    if here.length = cs.length then .error here.length
    else
      let name := here.takeWhile fun c => c.toNat < 0x80 && c ≠ '=' && !isSpace c
      if name.isEmpty then .error here.length
      else (readAssigned name here.length (here.drop name.length)).map some

end Setting

/-- What a declaration tells: the name of an encoding with its place, and whether the document
stands alone. -/
structure Declaration where
  encoding : Option (List Char × Nat) := none
  isStandalone : Bool := false
  deriving DecidableEq, Repr

namespace Declaration

/-- The end of a declaration, from the setting that says whether the document stands alone. -/
def readStandalone (encoding : Option (List Char × Nat)) (s : Setting) (rest : List Char) :
    Except Nat Declaration :=
  if s.name ≠ "standalone".toList then .error s.nameLeft
  else if s.value ≠ "yes".toList && s.value ≠ "no".toList then .error s.valueLeft
  else
    match skipSpace rest with
    | [] => .ok ⟨encoding, s.value = "yes".toList⟩
    | rest => .error rest.length

/-- What the settings of a declaration tell, or the place at which they are wrong. -/
def ofSettings (cs : List Char) : Except Nat Declaration := do
  match ← Setting.read cs with
  | none => throw cs.length
  | some (version, rest) =>
    if version.name ≠ "version".toList then throw version.nameLeft
    match ← Setting.read rest with
    | none => return {}
    | some (s, rest) =>
      if s.name ≠ "encoding".toList then readStandalone none s rest
      else if !s.value.head?.any Char.isAlpha then throw s.valueLeft
      else
        let encoding := some (s.value, s.valueLeft)
        match ← Setting.read rest with
        | none => return { encoding }
        | some (s, rest) => readStandalone encoding s rest

/-- The declaration of a document, if it has one, and the rest of the text. Places are those in the
whole text. -/
def read (e : Encoding) (cs : List Char) : Reading (Option Declaration × List Char) :=
  match cs with
  | '<' :: '?' :: rest =>
    match instruction e rest with
    | .ok (.declaration, after) =>
      let body := (rest.drop 3).take (rest.length - after.length - 5)
      let place := fun n : Nat => n + 2 + after.length
      match ofSettings body with
      | .error n => .fail .malformedDeclaration (place n)
      | .ok d =>
        .ok (some { d with encoding := d.encoding.map fun e => (e.1, place e.2) }, after)
    | _ => .ok (none, cs)
  | _ => .ok (none, cs)

end Declaration
end WideColumn.Xml
