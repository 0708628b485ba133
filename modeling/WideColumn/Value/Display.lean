import WideColumn.Value.Basic
import WideColumn.Decimal.Shortest
import WideColumn.Text.Quoted

/-!
Values as text. A text displays as itself; inside a list or a dictionary it is quoted. A value with
a whole number in it that is too long to be written has no text.
-/
namespace WideColumn.Value

def displayLayout : Decimal.Layout := ⟨-4, 15, "nan", "inf"⟩

def joinWith (separator : List Char) (parts : List (List Char)) : List Char :=
  (parts.intersperse separator).flatten

mutual
def displayNested : Value → List Char
  | null => "None".toList
  | flag b => if b then "True".toList else "False".toList
  | whole n => Text.integer n
  | double x => displayLayout.render x
  | text s => Text.quoted s.toList
  | bytes b => Text.quotedBytes b
  | list items => '[' :: joinWith [',', ' '] (displayItems items) ++ [']']
  | dict entries => '\x7b' :: joinWith [',', ' '] (displayEntries entries) ++ ['\x7d']

def displayItems : List Value → List (List Char)
  | [] => []
  | item :: rest => displayNested item :: displayItems rest

def displayEntries : List (Value × Value) → List (List Char)
  | [] => []
  | (key, value) :: rest =>
    (displayNested key ++ ':' :: ' ' :: displayNested value) :: displayEntries rest
end

/-- How a value is laid out as text, whether or not all its numbers can be written. -/
def display : Value → List Char
  | text s => s.toList
  | value => displayNested value

def displayText (value : Value) : String := String.ofList value.display

mutual
/-- Whether every whole number in a value can be written. -/
def hasText : Value → Bool
  | whole n => Text.isWritable n
  | list items => haveTexts items
  | dict entries => entriesHaveTexts entries
  | null | flag _ | double _ | text _ | bytes _ => true

def haveTexts : List Value → Bool
  | [] => true
  | item :: rest => hasText item && haveTexts rest

def entriesHaveTexts : List (Value × Value) → Bool
  | [] => true
  | (key, value) :: rest => hasText key && hasText value && entriesHaveTexts rest
end

/-- The text of a value, if it has one. -/
def shown (value : Value) : Except Text.IntegerError (List Char) :=
  if value.hasText then .ok value.display else .error .unwritable

def shownText (value : Value) : Except Text.IntegerError String := value.shown.map String.ofList

end WideColumn.Value
