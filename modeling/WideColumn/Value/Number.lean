import WideColumn.Value.Display
import WideColumn.Text.Integer

/-!
Values as whole numbers: texts and byte strings are read, and doubles lose their fraction.
-/
namespace WideColumn

inductive NumberError
  | text (error : Text.IntegerError)
  | infinite
  | notANumber
  | type (typeName : String)
  deriving DecidableEq, Repr

def NumberError.message : NumberError → String
  | text error => error.message
  | infinite => "cannot convert float infinity to integer"
  | notANumber => "cannot convert float NaN to integer"
  | type typeName =>
    "int() argument must be a string, a bytes-like object or a real number, not '" ++ typeName ++
      "'"

namespace Value

def truncate (x : Binary64) : Except NumberError Int :=
  match x.classify with
  | .nan => .error .notANumber
  | .infinite _ => .error .infinite
  | .finite negative m => .ok (if negative then -(m.floor : Int) else m.floor)

def toInteger : Value → Except NumberError Int
  | flag b => .ok (if b then 1 else 0)
  | whole n => .ok n
  | double x => truncate x
  | text s => (Text.readInteger s.toList).mapError .text
  | bytes b => (Text.readIntegerBytes b).mapError .text
  | value => .error (.type value.typeName)

def isNumber : Value → Bool
  | flag _ | whole _ | double _ => true
  | _ => false

/-- The least whole number that is not below a finite number. -/
def ceiling? : Value → Option Int
  | flag b => some (if b then 1 else 0)
  | whole n => some n
  | double x =>
    match x.classify with
    | .finite negative m =>
      if negative then some (-(m.floor : Int))
      else some (if m.whole?.isSome then (m.floor : Int) else m.floor + 1)
    | _ => none
  | _ => none

/-- Whether a value is a number above zero. -/
def isPositive : Value → Bool
  | flag b => b
  | whole n => 0 < n
  | double x => x.isPositive
  | _ => false

/-- Whether a value is a number below zero. -/
def isNegative : Value → Bool
  | whole n => n < 0
  | double x =>
    match x.classify with
    | .finite negative _ => negative && x.isNonzero
    | .infinite negative => negative
    | .nan => false
  | _ => false

end Value
end WideColumn
