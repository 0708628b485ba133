import WideColumn.Filter.Signature

/-!
From tokens to filter trees. `SKIP` and `WHILE` bind more tightly than `AND`, and `AND` more than
`OR`; a chain of operands of one connective is one list, and a single operand is no list.
-/
namespace WideColumn.Filter

def found : List Token → Found
  | [] => .finish
  | t :: _ => .token t.text

def positionOf (finish : Nat) : List Token → Nat
  | [] => finish
  | t :: _ => t.position

def startsWith (word : String) : List Token → Bool
  | [] => false
  | t :: _ => t.isWord word

def expect (kind : TokenKind) (what : String) (finish : Nat) (ts : List Token) :
    Except Failure (List Token) :=
  match ts with
  | t :: rest =>
    if t.kind = kind then .ok rest else reject (.expected what (found ts)) t.position
  | [] => reject (.expected what .finish) finish

def Token.isArgument (t : Token) : Bool :=
  match t.kind with
  | .string _ | .number _ | .op _ => true
  | .name => (flag? t.text).isSome
  | _ => false

def argument (finish : Nat) (ts : List Token) : Except Failure (Token × List Token) :=
  match ts with
  | t :: rest =>
    if t.isArgument then .ok (t, rest) else reject (.malformedArgument (found ts)) t.position
  | [] => reject (.malformedArgument .finish) finish

def moreArguments (finish : Nat) : List Token → Except Failure (List Token × List Token)
  | [] => .ok ([], [])
  | t :: ts =>
    if t.kind = .comma then
      match ts with
      | a :: rest =>
        if a.isArgument then
          (moreArguments finish rest).map fun (args, rest) => (a :: args, rest)
        else reject (.malformedArgument (.token a.text)) a.position
      | [] => reject (.malformedArgument .finish) finish
    else .ok ([], t :: ts)

def arguments (finish : Nat) (ts : List Token) : Except Failure (List Token × List Token) :=
  match ts with
  | ⟨.rightParen, _, _⟩ :: _ => .ok ([], ts)
  | _ => do
    let (first, rest) ← argument finish ts
    let (more, rest) ← moreArguments finish rest
    return (first :: more, rest)

/-- A leaf, read after the token that names it. -/
def call (table : Table) (finish : Nat) (name : Token) (ts : List Token) :
    Except Failure (Node × List Token) :=
  let word := String.ofList name.text
  if keywords.contains word then reject (.missingOperand word) name.position
  else
    match table.get? word with
    | none => reject (.unknownFilter word) name.position
    | some signatures => do
      let ts ← expect .leftParen ("'(' after " ++ word) finish ts
      let (args, ts) ← arguments finish ts
      let ts ← expect .rightParen ("')' to close the argument list of " ++ word) finish ts
      let bound ← bindArguments signatures name args
      return (.leaf word bound, ts)

def combine (operator : String) (first : Node) (more : List Node) : Node :=
  if more.isEmpty then first else .list operator (first :: more)

section
variable (table : Table) (finish : Nat)

mutual
/-- Operands of `OR`. The first argument bounds the depth of the recursion. -/
def disjunction : Nat → List Token → Except Failure (Node × List Token)
  | 0, ts => reject (.expectedFilter (found ts)) (positionOf finish ts)
  | depth + 1, ts => do
    let (first, ts) ← conjunction depth ts
    let (more, ts) ← moreDisjuncts depth ts
    return (combine "OR" first more, ts)

def moreDisjuncts : Nat → List Token → Except Failure (List Node × List Token)
  | 0, ts => .ok ([], ts)
  | depth + 1, ts =>
    if startsWith "OR" ts then do
      let (node, ts) ← conjunction depth ts.tail
      let (more, ts) ← moreDisjuncts depth ts
      return (node :: more, ts)
    else .ok ([], ts)

def conjunction : Nat → List Token → Except Failure (Node × List Token)
  | 0, ts => reject (.expectedFilter (found ts)) (positionOf finish ts)
  | depth + 1, ts => do
    let (first, ts) ← unary depth ts
    let (more, ts) ← moreConjuncts depth ts
    return (combine "AND" first more, ts)

def moreConjuncts : Nat → List Token → Except Failure (List Node × List Token)
  | 0, ts => .ok ([], ts)
  | depth + 1, ts =>
    if startsWith "AND" ts then do
      let (node, ts) ← unary depth ts.tail
      let (more, ts) ← moreConjuncts depth ts
      return (node :: more, ts)
    else .ok ([], ts)

/-- A leaf, an expression in parentheses, or either of them behind `SKIP` and `WHILE`. -/
def unary : Nat → List Token → Except Failure (Node × List Token)
  | 0, ts => reject (.expectedFilter (found ts)) (positionOf finish ts)
  | depth + 1, ts =>
    match ts with
    | [] => reject (.expectedFilter .finish) finish
    | t :: rest =>
      if t.isWord "SKIP" || t.isWord "WHILE" then
        (unary depth rest).map fun (child, rest) => (.wrap (String.ofList t.text) child, rest)
      else
        match t.kind with
        | .leftParen => do
          let (node, rest) ← disjunction depth rest
          let rest ← expect .rightParen "')'" finish rest
          return (node, rest)
        | .name => call table finish t rest
        | _ => reject (.expectedFilter (.token t.text)) t.position
end

end

/-- A recursion as deep as this is enough for that many tokens. -/
def depthFor (tokens : Nat) : Nat := 4 * tokens + 4

def parseTokens (table : Table) (finish : Nat) (ts : List Token) : Except Failure Node :=
  match disjunction table finish (depthFor ts.length) ts with
  | .error e => .error e
  | .ok (node, []) => .ok node
  | .ok (_, t :: _) => reject (.unexpected (.token t.text)) t.position

/-- The tree of an expression. A blank expression is no filter. -/
def parse (table : Table) (cs : List Char) : Except Failure (Option Node) :=
  if Text.isBlankText cs then .ok none
  else
    match scan cs with
    | .error e => .error e
    | .ok ts => (parseTokens table cs.length ts).map some

end WideColumn.Filter
