import WideColumn.Text.Integer
import WideColumn.Filter.Basic

/-!
Why a filter expression is rejected, and at which character.
-/
namespace WideColumn.Filter

/-- What stands where something else is expected: the text of a token, or the end. -/
inductive Found
  | token (text : List Char)
  | finish
  deriving DecidableEq, Repr

def Found.describe : Found → String
  | token text => "'" ++ String.ofList text ++ "'"
  | finish => "end of expression"

inductive Reason
  | unterminatedString
  | unexpectedCharacter (c : Char)
  | unexpected (found : Found)
  | expected (what : String) (found : Found)
  | expectedFilter (found : Found)
  | missingOperand (operator : String)
  | unknownFilter (name : String)
  | malformedArgument (found : Found)
  | wrongArguments (name : String) (signatures : List (List String))
  | tooFewArguments (least : Nat)
  | argumentCount (wanted given : Nat)
  | negativeNumber (text : List Char)
  | wrongKind (kind : String) (text : List Char)
  | comparatorForm (text : List Char)
  | unknownComparator (name : List Char)
  | patternOperator (kind : ComparatorKind)
  deriving DecidableEq, Repr

def showSignature (kinds : List String) : String := "(" ++ ", ".intercalate kinds ++ ")"

def Reason.message : Reason → String
  | unterminatedString => "Unterminated string literal"
  | unexpectedCharacter c => "Unexpected character '" ++ c.toString ++ "'"
  | unexpected found => "Unexpected " ++ found.describe
  | expected what found => "Expected " ++ what ++ " but found " ++ found.describe
  | expectedFilter found => "Expected a filter but found " ++ found.describe
  | missingOperand operator => "Operator " ++ operator ++ " is missing its operand"
  | unknownFilter name => "Unknown filter '" ++ name ++ "'"
  | malformedArgument found => "Malformed argument " ++ found.describe
  | wrongArguments name signatures =>
    "Wrong arguments for " ++ name ++ ", expected " ++
      " or ".intercalate (signatures.map showSignature)
  | tooFewArguments least =>
    "Expected at least " ++ String.ofList (Text.natural least) ++ " arguments"
  | argumentCount wanted given =>
    "Expected " ++ String.ofList (Text.natural wanted) ++ " arguments but got " ++
      String.ofList (Text.natural given)
  | negativeNumber text =>
    "Expected a non-negative integer but found " ++ String.ofList text
  | wrongKind kind text =>
    "Expected " ++ kind ++ " argument but found '" ++ String.ofList text ++ "'"
  | comparatorForm text => "Comparator '" ++ String.ofList text ++ "' must look like 'type:value'"
  | unknownComparator name => "Unknown comparator type '" ++ String.ofList name ++ "'"
  | patternOperator kind =>
    String.ofList kind.name ++ " comparator can only be used with = or !="

structure Rejection where
  reason : Reason
  position : Nat
  deriving DecidableEq, Repr

namespace Rejection

def message (r : Rejection) : String := r.reason.message

def describe (r : Rejection) : String :=
  r.message ++ " at position " ++ String.ofList (Text.natural r.position)

end Rejection

/-- What keeps an expression from being parsed: it is rejected, it holds a number that cannot be
read, or it uses a filter with a signature whose last kind has no name. -/
inductive Failure
  | rejected (rejection : Rejection)
  | number (error : Text.IntegerError)
  | namelessKind
  deriving DecidableEq, Repr

def reject {α : Type} (reason : Reason) (position : Nat) : Except Failure α :=
  .error (.rejected ⟨reason, position⟩)

end WideColumn.Filter
