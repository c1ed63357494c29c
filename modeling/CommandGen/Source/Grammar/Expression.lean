import CommandGen.Source.Grammar.Pattern
import CommandGen.Text.Pieces

/-! Expressions. A condition admits no structure literal at its end, since its brace would be taken
for the block that follows. -/
namespace CommandGen.Source

namespace Precedence

def lowest : Nat := 0
def assignment : Nat := 1
def range : Nat := 2
def disjunction : Nat := 3
def conjunction : Nat := 4
def comparison : Nat := 6
def bitOr : Nat := 7
def bitXor : Nat := 8
def bitAnd : Nat := 9
def shift : Nat := 10
def sum : Nat := 11
def product : Nat := 12
def cast : Nat := 13

end Precedence

/-- The operators between two operands; one that starts another one comes after it. -/
def binaryOperators : List (List Char × Nat) :=
  [("+=", Precedence.assignment), ("-=", Precedence.assignment), ("*=", Precedence.assignment),
   ("/=", Precedence.assignment), ("%=", Precedence.assignment), ("^=", Precedence.assignment),
   ("&=", Precedence.assignment), ("|=", Precedence.assignment), ("<<=", Precedence.assignment),
   (">>=", Precedence.assignment), ("&&", Precedence.conjunction), ("||", Precedence.disjunction),
   ("<<", Precedence.shift), (">>", Precedence.shift), ("==", Precedence.comparison),
   ("<=", Precedence.comparison), ("!=", Precedence.comparison), (">=", Precedence.comparison),
   ("+", Precedence.sum), ("-", Precedence.sum), ("*", Precedence.product),
   ("/", Precedence.product), ("%", Precedence.product), ("^", Precedence.bitXor),
   ("&", Precedence.bitAnd), ("|", Precedence.bitOr), ("<", Precedence.comparison),
   (">", Precedence.comparison)].map
    fun (spelling, precedence) => (spelling.toList, precedence)

/-- The number of marks of the operator that is next, and its precedence. -/
def binaryOperator? (ts : List Tree) : Option (Nat × Nat) :=
  (binaryOperators.find? fun (spelling, _) => atMarks spelling ts).map fun (spelling, precedence) =>
    (spelling.length, precedence)

def atAssignment (ts : List Tree) : Bool := at1 '=' ts && !at2 '=' '>' ts

/-- The precedence of what is next, the lowest if it is no operator. -/
def nextPrecedence (ts : List Tree) : Nat :=
  match binaryOperator? ts with
  | some (_, precedence) => precedence
  | none =>
    if atAssignment ts then Precedence.assignment
    else if at2 '.' '.' ts then Precedence.range
    else if atWord "as" ts then Precedence.cast
    else Precedence.lowest

def endsOpenRange (structs : Bool) (ts : List Tree) : Bool :=
  ts.isEmpty || at1 ',' ts || at1 ';' ts || (at1 '.' ts && !at2 '.' '.' ts) || at1 '?' ts ||
    at2 '=' '>' ts || (!structs && atGroup .brace ts) || at1 '=' ts || at1 '+' ts || at1 '/' ts ||
    at1 '%' ts || at1 '^' ts || at1 '>' ts || at2 '<' '=' ts || at2 '!' '=' ts || at2 '-' '=' ts ||
    at2 '*' '=' ts || at2 '&' '=' ts || at2 '|' '=' ts || at3 '<' '<' '=' ts || atWord "as" ts

/-- What an expression may start with, where it may also be left out. -/
def startsExpression (ts : List Tree) : Bool :=
  (atAnyWord ts && !atWord "as" ts) || atAnyGroup ts || atLiteral ts ||
    (at1 '!' ts && !at2 '!' '=' ts) || (at1 '-' ts && !at2 '-' '=' ts && !at2 '-' '>' ts) ||
    (at1 '*' ts && !at2 '*' '=' ts) || (at1 '|' ts && !at2 '|' '=' ts) ||
    (at1 '&' ts && !at2 '&' '=' ts) || at2 '.' '.' ts ||
    (at1 '<' ts && !at2 '<' '=' ts && !at3 '<' '<' '=' ts) || at2 ':' ':' ts || atLifetime ts ||
    at1 '#' ts

variable (g : Grammar)

def optionalExpression : Parser Unit := whenAt startsExpression (discard (g.expression true))

/-- The right side of an operator takes in what binds tighter, and of assignments all. -/
def rightSideFrom (structs : Bool) (precedence : Nat) : Nat → ExprShape → Parser Unit
  | 0, _ => return
  | n + 1, shape => do
    let ts ← read
    let next := nextPrecedence ts
    if precedence < next || (next = precedence && precedence = Precedence.assignment) then
      let shape ← g.operators structs shape next
      if (← read).length < ts.length then rightSideFrom structs precedence n shape

def rightSide (structs : Bool) (precedence : Nat) : Parser Unit := do
  let shape ← g.operand structs
  rightSideFrom g structs precedence (← read).length shape

def rangeRest (structs : Bool) : Parser Unit := do
  let ts ← read
  guard (at2 '.' '.' ts && !at3 '.' '.' '.' ts)
  let closed := at3 '.' '.' '=' ts
  advance (if closed then 3 else 2)
  if closed || !endsOpenRange structs (← read) then rightSide g structs Precedence.range

/-- A cast has to stand in parentheses before a call, an index, a field or a question mark. -/
def castAccess (ts : List Tree) : Bool :=
  (at1 '.' ts && !at2 '.' '.' ts) || at1 '?' ts || atGroup .bracket ts || atGroup .paren ts

def operatorsFor (structs : Bool) (base : Nat) : Nat → ExprShape → Parser ExprShape
  | 0, shape => return shape
  | n + 1, shape => do
    if shape = .range then return .range
    let ts ← read
    match binaryOperator? ts with
    | some (width, precedence) =>
      if precedence < base then return shape
      let compares := precedence = Precedence.comparison
      guard (!(compares && shape = .comparison))
      advance width
      rightSide g structs precedence
      operatorsFor structs base n (if compares then .comparison else .other)
    | none =>
      if base ≤ Precedence.assignment && atAssignment ts then
        advance 1
        rightSide g structs Precedence.assignment
        operatorsFor structs base n .other
      else if base ≤ Precedence.range && at2 '.' '.' ts then
        rangeRest g structs
        operatorsFor structs base n .range
      else if base ≤ Precedence.cast && atWord "as" ts then
        advance 1
        discard (g.type false)
        guard (!castAccess (← read))
        operatorsFor structs base n .other
      else return shape

/-- The operators after an operand. A range takes no operator, and comparisons do not chain. -/
def operators (structs : Bool) (shape : ExprShape) (base : Nat) : Parser ExprShape := do
  operatorsFor g structs base (← read).length shape

def expression (structs : Bool) : Parser ExprShape := do
  let shape ← g.operand structs
  g.operators structs shape Precedence.lowest

/-- Indices joined with points, as they are read together: `0.1`. -/
def isIndexChain (lexeme : List Char) : Bool :=
  let chain := if lexeme.getLast? = some '.' then lexeme.dropLast else lexeme
  (Text.pieces (· == '.') chain).all fun piece =>
    match literal? piece with
    | some (.integer (some n), w) => w = piece.length && isMemberIndex n
    | _ => false

def callParentheses : Parser Unit := discard (within .paren (commaList (g.expression true)))

/-- A field, a method or the word that waits for a result, after its point. -/
def access : Parser Unit := do
  if ← eatWord? "await" then return
  let named ← member
  if named && at2 ':' ':' (← read) then
    advance 2
    guard (at1 '<' (← read))
    discard (genericArguments g)
    callParentheses g

/-- What follows the point of an access; of several indices the last point may be for another
one. -/
def pointAccess : Parser Unit := do
  match ← read with
  | .literal (.float lexeme) _ :: _ =>
    guard (isIndexChain lexeme)
    advance 1
    if lexeme.getLast? = some '.' then access g
  | _ => access g

def trailersFor : Nat → ExprShape → Parser ExprShape
  | 0, shape => return shape
  | n + 1, shape => do
    let ts ← read
    if atGroup .paren ts then
      callParentheses g
      trailersFor n .other
    else if at1 '.' ts && !at2 '.' '.' ts && shape ≠ .range then
      advance 1
      pointAccess g
      trailersFor n .other
    else if atGroup .bracket ts then
      discard (within .bracket (g.expression true))
      trailersFor n .other
    else if at1 '?' ts && shape ≠ .range then
      advance 1
      trailersFor n .other
    else return shape

/-- Calls, fields, indices and question marks after an expression. -/
def trailers (shape : ExprShape) : Parser ExprShape := do
  trailersFor g (← read).length shape

def closureParameter : Parser Unit := do
  discard (outerAttributes g)
  discard g.pattern
  if ← eat1? ':' then discard (g.type true)

/-- A function without a name. With a result type its body is a block. -/
def closure (structs : Bool) : Parser Unit := do
  whenAt (atWord "for") g.binder
  discard (eatWord? "const")
  discard (eatWord? "static")
  discard (eatWord? "async")
  discard (eatWord? "move")
  eat1 '|'
  discard (separatedUntil (at1 '|') (eat1 ',') (closureParameter g))
  eat1 '|'
  if at2 '-' '>' (← read) then
    advance 2
    discard (g.type true)
    block g
  else discard (g.expression structs)

def fieldValue : Parser Unit := do
  discard (outerAttributes g)
  let named ← member
  if !named || at1 ':' (← read) then
    eat1 ':'
    discard (g.expression true)

def structLiteralFields : Nat → Parser Unit
  | 0 => return
  | n + 1 => do
    let ts ← read
    if ts.isEmpty then return
    if at2 '.' '.' ts then
      advance 2
      whenAt (!·.isEmpty) (discard (g.expression true))
    else
      fieldValue g
      if (← read).isEmpty then return
      eat1 ','
      structLiteralFields n

/-- The fields of a structure literal; after two dots stands what gives the rest. -/
def structLiteral : Parser Unit := within .brace do structLiteralFields g (← read).length

def pathExpression (structs : Bool) : Parser ExprShape := do
  let shape ← qualifiedPath g true
  let ts ← read
  if shape.any (·.isPlain) && at1 '!' ts && !at2 '!' '=' ts then
    advance 1
    return if ← anyGroup then .bracedCall else .other
  if structs && atGroup .brace ts then structLiteral g
  return .other

/-- A list of elements, or one with the number of its repetitions. -/
def arrayExpression : Parser Unit := within .bracket do
  if (← read).isEmpty then return
  discard (g.expression true)
  if ← eat1? ';' then discard (g.expression true)
  else if !(← read).isEmpty then
    eat1 ','
    discard (commaList (g.expression true))

/-- A label before a value is taken for one only if no colon follows. -/
def breakExpression (structs : Bool) : Parser Unit := do
  eatWord "break"
  if atLifetime (← read) then
    lifetime
    guard (!at1 ':' (← read))
  let ts ← read
  if structs || !atGroup .brace ts then optionalExpression g

def letCondition (structs : Bool) : Parser Unit := do
  eatWord "let"
  discard (alternatives g)
  eat1 '='
  let shape ← g.operand structs
  discard (g.operators structs shape Precedence.comparison)

def ifChain : Nat → Parser Unit
  | 0 => failure
  | n + 1 => do
    eatWord "if"
    discard (g.expression false)
    block g
    if ← eatWord? "else" then
      if atWord "if" (← read) then ifChain n else block g

def whileLoop : Parser Unit := do
  eatWord "while"
  discard (g.expression false)
  attributedBlock g

def forLoop : Parser Unit := do
  eatWord "for"
  discard (alternatives g)
  eatWord "in"
  discard (g.expression false)
  attributedBlock g

def endlessLoop : Parser Unit := do
  eatWord "loop"
  attributedBlock g

/-- One case. Between cases stands a comma, unless a block ends the first one. -/
def matchArm : Parser Unit := do
  discard (outerAttributes g)
  discard (alternatives g)
  if ← eatWord? "if" then discard (g.expression true)
  eat2 '=' '>'
  let body ← g.statementExpression
  if body = .block || (← read).isEmpty then discard (eat1? ',') else eat1 ','

def matchExpression : Parser Unit := do
  eatWord "match"
  discard (g.expression false)
  within .brace do
    innerAttributes g
    discard (repeatUntil List.isEmpty (matchArm g))

def labelled : Parser Unit := do
  lifetime
  eat1 ':'
  let ts ← read
  if atWord "while" ts then whileLoop g
  else if atWord "for" ts then forLoop g
  else if atWord "loop" ts then endlessLoop g
  else attributedBlock g

def builtinExpression : Parser Unit := do
  eatWord "builtin"
  eat1 '#'
  discard identifier
  anyContent .paren

def startsClosure (ts : List Tree) : Bool :=
  let next := skip1 ts
  at1 '|' ts || atWord "move" ts ||
    (atWord "for" ts && at1 '<' next && (atLifetime (skip2 ts) || at1 '>' (skip2 ts))) ||
    (atWord "const" ts && !atGroup .brace next) || atWord "static" ts ||
    (atWord "async" ts && (at1 '|' next || atWord "move" next))

def startsPath (ts : List Tree) : Bool :=
  atIdentifier ts || at2 ':' ':' ts || at1 '<' ts || atWord "self" ts || atWord "Self" ts ||
    atWord "super" ts || atWord "crate" ts ||
    (atWord "try" ts && (at1 '!' (skip1 ts) || at2 ':' ':' (skip1 ts)))

def blockExpression : Parser Unit := do
  let ts ← read
  if atWord "if" ts then ifChain g ts.length
  else if atWord "while" ts then whileLoop g
  else if atWord "for" ts then forLoop g
  else if atWord "loop" ts then endlessLoop g
  else if atWord "match" ts then matchExpression g
  else if atWord "try" ts then
    advance 1
    block g
  else if atWord "unsafe" ts || atWord "const" ts then
    advance 1
    attributedBlock g
  else if atLifetime ts then labelled g
  else attributedBlock g

/-- An expression without operators and without what may follow it. -/
def atom (structs : Bool) : Parser ExprShape := do
  let ts ← read
  let next := skip1 ts
  if atLiteral ts then
    literal
    return .other
  if atWord "async" ts &&
      (atGroup .brace next || (atWord "move" next && atGroup .brace (skip2 ts))) then
    advance 1
    discard (eatWord? "move")
    block g
    return .other
  if atWord "try" ts && atGroup .brace next then
    blockExpression g
    return .block
  if startsClosure ts then
    closure g structs
    return .other
  if atWord "builtin" ts && at1 '#' next then
    builtinExpression
    return .other
  if startsPath ts then pathExpression g structs
  else if atGroup .paren ts then
    callParentheses g
    return .other
  else if atWord "break" ts then
    breakExpression g structs
    return .other
  else if atWord "continue" ts then
    advance 1
    whenAt atLifetime lifetime
    return .other
  else if atWord "return" ts || atWord "yield" ts then
    advance 1
    optionalExpression g
    return .other
  else if atWord "become" ts then
    advance 1
    discard (g.expression true)
    return .other
  else if atGroup .bracket ts then
    arrayExpression g
    return .other
  else if atWord "let" ts then
    letCondition g structs
    return .other
  else if atWord "if" ts || atWord "while" ts || atWord "for" ts || atWord "loop" ts ||
      atWord "match" ts || atWord "unsafe" ts || atWord "const" ts || atGroup .brace ts ||
      atLifetime ts then
    blockExpression g
    return .block
  else if at2 '.' '.' ts then
    rangeRest g structs
    return .range
  else
    eatWord "_"
    return .other

/-- An operand: operators in front, then an atom with what follows it. -/
def operand (structs : Bool) : Parser ExprShape := do
  let attributes ← outerAttributes g
  let ts ← read
  if at1 '&' ts then
    advance 1
    let ts ← read
    let raw := atWord "raw" ts && (atWord "mut" (skip1 ts) || atWord "const" (skip1 ts))
    if raw then advance 2 else discard (eatWord? "mut")
    discard (g.operand structs)
    return .other
  else if at1 '*' ts || at1 '!' ts || at1 '-' ts then
    advance 1
    discard (g.operand structs)
    return .other
  else
    let shape ← atom g structs
    let shape ← trailers g shape
    guard (attributes.isEmpty || shape ≠ .range)
    return shape

/-- An expression that ends with its block ends there as a statement, unless a point or a question
mark follows. -/
def statementExpression : Parser ExprShape := do
  discard (outerAttributes g)
  let ts ← read
  let next := skip1 ts
  let typed := at1 '<' next && (atLifetime (skip2 ts) || at1 '>' (skip2 ts))
  let early := atWord "if" ts || atWord "while" ts || (atWord "for" ts && !typed) ||
    atWord "loop" ts || atWord "match" ts || (atWord "try" ts && atGroup .brace next) ||
    atWord "unsafe" ts || (atWord "const" ts && atGroup .brace next) || atGroup .brace ts ||
    atLifetime ts
  if early then
    blockExpression g
    let ts ← read
    if (at1 '.' ts && !at2 '.' '.' ts) || at1 '?' ts then
      let shape ← trailers g .block
      g.operators true shape Precedence.lowest
    else return .block
  else
    let shape ← g.operand true
    g.operators true shape Precedence.lowest

end CommandGen.Source
