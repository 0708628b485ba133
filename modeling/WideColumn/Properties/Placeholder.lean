/-!
Placeholders in property values. `${name}` stands for a variable of the environment, and
`${name:default}` for the default where the variable is not set. What is put in is not looked at
again.
-/
namespace WideColumn

abbrev Environment := String → Option String

namespace Properties

/-- The placeholder after `${` at the start of a text: the name, the default, and the number of
characters up to and with the closing brace. -/
def placeholder? (cs : List Char) : Option (List Char × List Char × Nat) :=
  let name := cs.takeWhile fun c => c ≠ ':' && c ≠ '\x7d'
  if name.isEmpty then none
  else
    match cs.drop name.length with
    | [] => none
    | c :: rest =>
      if c = '\x7d' then some (name, [], name.length + 1)
      else
        let fallback := rest.takeWhile (· ≠ '\x7d')
        if fallback.length < rest.length then
          some (name, fallback, name.length + fallback.length + 2)
        else none

/-- The text with its placeholders replaced, after `skip` characters of a placeholder. -/
def expandAfter (environment : Environment) : (skip : Nat) → List Char → List Char
  | _, [] => []
  | skip + 1, _ :: rest => expandAfter environment skip rest
  | 0, '$' :: '\x7b' :: rest =>
    match placeholder? rest with
    | some (name, fallback, n) =>
      let value := ((environment (String.ofList name)).map String.toList).getD fallback
      value ++ expandAfter environment (n + 1) ('\x7b' :: rest)
    | none => '$' :: expandAfter environment 0 ('\x7b' :: rest)
  | 0, c :: rest => c :: expandAfter environment 0 rest

def expand (environment : Environment) (text : String) : String :=
  String.ofList (expandAfter environment 0 text.toList)

end Properties
end WideColumn
