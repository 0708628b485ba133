import WideColumn.Filter.Basic
import WideColumn.Text.Integer

/-!
The written form of a filter tree, as text and as the bytes that go to the store. Arguments stand
in parentheses; a list stands in parentheses inside another list or behind `SKIP` and `WHILE`.
-/
namespace WideColumn.Filter

/-- A part of a written filter: plain text, or a byte string in quotes. -/
inductive Piece
  | plain (cs : List Char)
  | quoted (b : Bytes)
  deriving DecidableEq, Repr

namespace Piece

def quoteText (cs : List Char) : List Char :=
  '\'' :: cs.flatMap (fun c => if c = '\'' then ['\'', '\''] else [c]) ++ ['\'']

/-- A byte string between single quotes, with the quotes inside it written twice. -/
def quoteBytes (b : Bytes) : Bytes :=
  0x27 :: b.flatMap (fun x => if x = 0x27 then [0x27, 0x27] else [x]) ++ [0x27]

def text : Piece → List Char
  | plain cs => cs
  | quoted b => quoteText (Utf8.decodeLossy b)

def wire : Piece → Bytes
  | plain cs => Utf8.encode cs
  | quoted b => quoteBytes b

end Piece

def Comparator.toBytes (c : Comparator) : Bytes := Utf8.encode (c.kind.name ++ [':']) ++ c.value

def Arg.piece : Arg → Piece
  | text value => .quoted value
  | number value => .plain (Text.integer value)
  | flag value => .plain (if value then ['t', 'r', 'u', 'e'] else ['f', 'a', 'l', 's', 'e'])
  | op o => .plain o.symbol
  | comparator c => .quoted c.toBytes

namespace Node

def parenthesize (node : Node) (pieces : List Piece) : List Piece :=
  if node.isList then .plain ['('] :: pieces ++ [.plain [')']] else pieces

mutual
def pieces : Node → List Piece
  | leaf name args =>
    .plain (name.toList ++ [' ', '(']) ::
      (args.map Arg.piece).intersperse (.plain [',', ' ']) ++ [.plain [')']]
  | list operator children =>
    ((childPieces children).intersperse [.plain (' ' :: operator.toList ++ [' '])]).flatten
  | wrap kind child =>
    .plain (kind.toList ++ [' ']) :: parenthesize child (pieces child)

def childPieces : List Node → List (List Piece)
  | [] => []
  | child :: rest => parenthesize child (pieces child) :: childPieces rest
end

/-- The written form as text. It is the filter's only if all its byte strings are UTF-8. -/
def text (node : Node) : List Char := node.pieces.flatMap Piece.text

/-- The written form as the bytes that go to the store. -/
def wire (node : Node) : Bytes := node.pieces.flatMap Piece.wire

end Node
end WideColumn.Filter
