import WideColumn.Text.Folding.Mark
import WideColumn.Text.Folding.Table

/-!
Folding: texts that differ only in the size of letters, in the form of characters, or in how
characters with marks are put together become the same text.
-/
namespace WideColumn.Text

/-- Puts a character after a text that is given from its end. A mark goes in front of the marks of
higher classes there. -/
def placeMark (c : Char) : List Char → List Char
  | [] => [c]
  | d :: before =>
    if 0 < markClass c && markClass c < markClass d then d :: placeMark c before
    else c :: d :: before

/-- The text in which marks that follow each other stand in the order of their classes. -/
def orderMarks (cs : List Char) : List Char :=
  (cs.foldl (fun before c => placeMark c before) []).reverse

/-- Joins a character with the marks after it. Those that do not join are kept, the last one first;
a mark of the same class as a kept one touches that one, and not the character. -/
def joinMarks (base : Char) (kept : List Char) : List Char → List Char
  | [] => base :: kept.reverse
  | c :: rest =>
    let touches := kept.head?.all fun d => markClass d < markClass c
    match (if touches then join? base c else none) with
    | some whole => joinMarks whole kept rest
    | none =>
      if markClass c = 0 then base :: kept.reverse ++ joinMarks c [] rest
      else joinMarks base (c :: kept) rest

/-- At most this many marks are part of a character. -/
def marksLimit : Nat := 3

def folded (cs : List Char) : List Char :=
  match orderMarks ((cs.flatMap foldImage).flatMap (pieces marksLimit)) with
  | [] => []
  | c :: rest => joinMarks c [] rest

end WideColumn.Text
