import WideColumn.Xml.Content

/-!
XML documents as trees, from their bytes, and what is asked of a tree. A name in a namespace carries
the namespace in braces, so that it differs from every plain name.
-/
namespace WideColumn.Xml

def parse (b : Bytes) : Except Error Node := do
  let source ← SourceText.ofBytes b
  (readDocument source).mapError fun f =>
    let place := f.place (source.declaration ++ source.rest)
    .notWellFormed f.problem place.1 place.2

namespace Node

def leadingText : List Node → List Char
  | .text cs :: rest => cs ++ leadingText rest
  | _ => []

def childText? (name : List Char) : List Node → Option (List Char)
  | [] => none
  | .text _ :: rest => childText? name rest
  | .element n content :: rest =>
    if n = name then some (leadingText content) else childText? name rest

mutual
def contentsOf (name : List Char) : Node → List (List Node)
  | .text _ => []
  | .element n content => (if n = name then [content] else []) ++ contentsOfAll name content

def contentsOfAll (name : List Char) : List Node → List (List Node)
  | [] => []
  | node :: rest => contentsOf name node ++ contentsOfAll name rest
end

end Node
end WideColumn.Xml
