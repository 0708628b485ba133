import WideColumn.Text.Blank
import WideColumn.Text.Integer

/-!
What can be wrong with an XML document, and where. A place in a text is given by the number of
characters that are left after it, which needs no count of those before it.
-/
namespace WideColumn.Xml

inductive Problem
  | syntaxError
  | noElement
  | invalidToken
  | unclosedToken
  | partialCharacter
  | mismatchedTag
  | duplicateAttribute
  | junkAfterElement
  | parameterReference
  | undefinedEntity
  | skippedEntity (name : List Char)
  | recursiveEntity
  | unbalancedEntity
  | badCharacterNumber
  | binaryEntity
  | externalEntity
  | misplacedDeclaration
  | unknownEncoding
  | incorrectEncoding
  | unclosedSection
  | unboundPrefix
  | undeclaredPrefix
  | malformedDeclaration
  | badPublicIdentifier
  | reservedPrefixXml
  | reservedPrefixXmlns
  | reservedNamespace
  | amplified
  deriving DecidableEq, Repr

def Problem.describe : Problem → String
  | syntaxError => "syntax error"
  | noElement => "no element found"
  | invalidToken => "not well-formed (invalid token)"
  | unclosedToken => "unclosed token"
  | partialCharacter => "partial character"
  | mismatchedTag => "mismatched tag"
  | duplicateAttribute => "duplicate attribute"
  | junkAfterElement => "junk after document element"
  | parameterReference => "illegal parameter entity reference"
  | undefinedEntity => "undefined entity"
  | skippedEntity name => "undefined entity &" ++ String.ofList name ++ ";"
  | recursiveEntity => "recursive entity reference"
  | unbalancedEntity => "asynchronous entity"
  | badCharacterNumber => "reference to invalid character number"
  | binaryEntity => "reference to binary entity"
  | externalEntity => "reference to external entity in attribute"
  | misplacedDeclaration => "XML or text declaration not at start of entity"
  | unknownEncoding => "unknown encoding"
  | incorrectEncoding => "encoding specified in XML declaration is incorrect"
  | unclosedSection => "unclosed CDATA section"
  | unboundPrefix => "unbound prefix"
  | undeclaredPrefix => "must not undeclare prefix"
  | malformedDeclaration => "XML declaration not well-formed"
  | badPublicIdentifier => "illegal character(s) in public id"
  | reservedPrefixXml =>
    "reserved prefix (xml) must not be undeclared or bound to another namespace name"
  | reservedPrefixXmlns => "reserved prefix (xmlns) must not be declared or undeclared"
  | reservedNamespace => "prefix must not be bound to one of the reserved namespace names"
  | amplified => "limit on input amplification factor (from DTD and entities) breached"

structure Failure where
  problem : Problem
  left : Nat
  deriving DecidableEq, Repr

abbrev Reading (α : Type) := Except Failure α

def Reading.fail {α : Type} (problem : Problem) (left : Nat) : Reading α := .error ⟨problem, left⟩

/-- The line and the column after a text: lines are counted from one and columns from zero. -/
def lineAndColumn (before : List Char) : Nat × Nat :=
  let step := fun (place : Nat × Nat) (c : Char) =>
    if c = '\n' then (place.1 + 1, 0) else (place.1, place.2 + 1)
  (Text.unifyBreaks before).foldl step (1, 0)

def Failure.place (f : Failure) (text : List Char) : Nat × Nat :=
  lineAndColumn (text.take (text.length - f.left))

end WideColumn.Xml
