import CommandGen.Source.Grammar.Type

/-! Patterns. -/
namespace CommandGen.Source

variable (g : Grammar)

def alternatives : Parser PatternShape := do
  let leading ← eat1? '|'
  let first ← g.pattern
  let atBar (ts : List Tree) : Bool := at1 '|' ts && !at2 '|' '|' ts && !at2 '|' '=' ts
  let rec more : Nat → Parser Bool
    | 0 => return false
    | n + 1 => do
      if atBar (← read) then
        advance 1
        discard g.pattern
        discard (more n)
        return true
      return false
  let several ← more (← read).length
  return if leading || several then .other else first

/-- An index of a member fits 32 bits. -/
def isMemberIndex (n : Nat) : Bool := n < 0x100000000

/-- The member of a structure: a name, or an index without a suffix. It says whether it is a
name. -/
def member : Parser Bool := do
  match ← read with
  | .literal (.integer (some n)) _ :: _ =>
    guard (isMemberIndex n)
    advance 1
    return false
  | _ =>
    discard identifier
    return true

def fieldPattern : Parser Unit := do
  let boxed ← eatWord? "box"
  let byReference ← eatWord? "ref"
  let mutable ← eatWord? "mut"
  if boxed || byReference || mutable then discard identifier
  else
    let named ← member
    if !named || at1 ':' (← read) then
      eat1 ':'
      discard (alternatives g)

/-- The fields of a structure pattern; two dots stand for the rest. -/
def structPattern : Parser Unit := within .brace do
  let rec fields : Nat → Parser Unit
    | 0 => do guard (← read).isEmpty
    | n + 1 => do
      if (← read).isEmpty then return
      discard (outerAttributes g)
      if at2 '.' '.' (← read) then advance 2
      else
        fieldPattern g
        if (← read).isEmpty then return
        eat1 ','
        fields n
  fields (← read).length

/-- The end of a range, if it has one: a literal, a path or a constant block. -/
def rangeBound : Parser Bool := do
  let ts ← read
  if ts.isEmpty || at1 '|' ts || at1 '=' ts || (at1 ':' ts && !at2 ':' ':' ts) || at1 ',' ts ||
      at1 ';' ts || atWord "if" ts then
    return false
  if atLiteral ts then literal
  else if atIdentifier ts || at2 ':' ':' ts || at1 '<' ts || atWord "self" ts || atWord "Self" ts ||
      atWord "super" ts || atWord "crate" ts then
    discard (qualifiedPath g true)
  else
    eatWord "const"
    attributedBlock g
  return true

/-- The mark of a range; says whether its end belongs to it. Three dots are an old spelling. -/
def rangeMark : Parser Bool := do
  let ts ← read
  if at3 '.' '.' '=' ts || at3 '.' '.' '.' ts then
    advance 3
    return true
  eat2 '.' '.'
  return false

def rangeEnd : Parser PatternShape := do
  let closed ← rangeMark
  let ended ← rangeBound g
  guard (!closed || ended)
  return if ended then .other else .openRange

def pathPattern : Parser PatternShape := do
  let shape ← qualifiedPath g true
  let ts ← read
  if shape.any (·.isPlain) && at1 '!' ts && !at2 '!' '=' ts then
    advance 1
    discard anyGroup
    return .other
  if atGroup .brace ts then
    structPattern g
    return .other
  if atGroup .paren ts then
    discard (within .paren (commaList (alternatives g)))
    return .other
  if at2 '.' '.' ts then rangeEnd g else return .other

def pattern : Parser PatternShape := do
  let ts ← read
  let next := skip1 ts
  if (atIdentifier ts && (at2 ':' ':' next || at1 '!' next || atGroup .brace next ||
        atGroup .paren next || at2 '.' '.' next)) ||
      (atWord "self" ts && at2 ':' ':' next) || at2 ':' ':' ts || at1 '<' ts || atWord "Self" ts ||
      atWord "super" ts || atWord "crate" ts then
    pathPattern g
  else if atWord "_" ts then
    advance 1
    return .other
  else if atWord "box" ts then
    advance 1
    discard g.pattern
    return .other
  else if at1 '-' ts || atLiteral ts || atWord "const" ts then
    guard (← rangeBound g)
    if at2 '.' '.' (← read) then rangeEnd g else return .other
  else if atWord "ref" ts || atWord "mut" ts || atWord "self" ts || atIdentifier ts then
    discard (eatWord? "ref")
    discard (eatWord? "mut")
    if !(← eatWord? "self") then discard identifier
    if ← eat1? '@' then discard g.pattern
    return .other
  else if at1 '&' ts then
    advance 1
    discard (eatWord? "mut")
    discard g.pattern
    return .other
  else if atGroup .paren ts then
    discard (within .paren (commaList (alternatives g)))
    return .other
  else if atGroup .bracket ts then
    let elements ← within .bracket (commaList (alternatives g))
    guard (!elements.contains .openRange)
    return .other
  else if at2 '.' '.' ts && !at3 '.' '.' '.' ts then
    let closed := at3 '.' '.' '=' ts
    advance (if closed then 3 else 2)
    let ended ← rangeBound g
    guard (!closed || ended)
    return if ended then .openRange else .other
  else failure

end CommandGen.Source
