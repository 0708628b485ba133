import WideColumn.Fault

/-!
Names of publishers and subscribers: letters, digits and underscores of ASCII, and at least one
letter. One that is made without a check of its name can have any value for it that has a text.
-/
namespace WideColumn.Stream

def isNameChar (c : Char) : Bool := c.isAlphanum || c = '_'

def dropFinalBreak (cs : List Char) : List Char :=
  if cs.getLast? = some '\n' then cs.dropLast else cs

def isName (s : String) : Bool :=
  let cs := dropFinalBreak s.toList
  cs.all isNameChar && cs.any Char.isAlpha

def checkName (value : Value) : Except SetupError Unit :=
  match value with
  | .text s => if isName s then .ok () else .error (.name value)
  | _ => .error (.name value)

/-- The text of a name. It is told together with the address when something is made. -/
def announce (name address : Value) : Except Fault String := do
  let label ← name.shownText.mapError .ofInteger
  let _ ← address.shownText.mapError .ofInteger
  return label

end WideColumn.Stream
