import CommandGen.Source.Grammar.Path

/-! Types, bounds and the parameters and conditions of generic declarations. -/
namespace CommandGen.Source

variable (g : Grammar)

def resultType (plus : Bool) : Parser Unit :=
  whenAt (at2 '-' '>') do
    advance 2
    discard (g.type plus)

/-- Arguments in parentheses, as a callable bound has them, and the type of the result. -/
def callArguments : Parser Unit := do
  discard (within .paren (commaList (g.type true)))
  resultType g false

def traitBound (constness : Bool) : Parser BoundShape := do
  let ts ← read
  let bound := atWord "for" ts
  if bound then g.binder
  let ts ← read
  let conditional := atGroup .bracket ts
  let constant := conditional || atWord "const" ts
  if conditional then within .bracket (eatWord "const")
  else if constant then advance 1
  guard (!constant || constness)
  let relaxed ← eat1? '?'
  let lateBound := relaxed && !bound && atWord "for" (← read)
  if lateBound then g.binder
  let shape ← path g false
  let ts ← read
  if shape.last ≠ .present && (atGroup .paren ts || atSeparatorBefore (atGroup .paren) ts) then
    whenAt (at2 ':' ':') (advance 2)
    callArguments g
  guard (!(relaxed && (bound || lateBound)))
  return if constant then .constant else .trait

def capturedParameters : Parser Unit := do
  eatWord "use"
  eat1 '<'
  discard <| separatedUntil (at1 '>') (eat1 ',') do
    let ts ← read
    if atLifetime ts then lifetime
    else if atIdentifier ts || atWord "Self" ts then advance 1
    else failure
  eat1 '>'

def bound (capture constness : Bool) : Parser BoundShape := do
  let ts ← read
  if atLifetime ts then
    lifetime
    return .lifetime
  if atWord "use" ts then
    capturedParameters
    guard capture
    return .capture
  if atGroup .paren ts then within .paren (traitBound g constness) else traitBound g constness

def startsBound (constness : Bool) (ts : List Tree) : Bool :=
  atAnyWord ts || at2 ':' ':' ts || at1 '?' ts || atLifetime ts || atGroup .paren ts ||
    (constness && atGroup .bracket ts)

/-- Bounds joined with `+`, one at least; a `+` at the end is accepted. -/
def bounds (plus capture constness : Bool) : Parser (List BoundShape) := do
  let first ← g.bound capture constness
  let rec more : Nat → Parser (List BoundShape)
    | 0 => return []
    | n + 1 => do
      if plus && at1 '+' (← read) then
        advance 1
        if startsBound constness (← read) then
          let b ← g.bound capture constness
          let rest ← more n
          return b :: rest
      return []
  let rest ← more (← read).length
  return first :: rest

def objectBounds (plus capture constness : Bool) : Parser Unit := do
  let found ← bounds g plus capture constness
  guard (found.any fun b => b = .trait || b = .constant)

/-- A `+` and a bound, again and again; says whether there was one. -/
def plusBounds : Nat → Parser Bool
  | 0 => return false
  | n + 1 => do
    if ← eat1? '+' then
      discard (g.bound false false)
      discard (plusBounds n)
      return true
    return false

/-- What follows a path that stands for a trait: bounds joined with `+`. It counts them and says
whether a `+` is left at the end. -/
def moreBareBounds : Nat → Parser (Nat × Bool)
  | 0 => return (0, false)
  | n + 1 => do
    if ← eat1? '+' then
      if startsBound false (← read) then
        discard (g.bound false false)
        let (count, trailing) ← moreBareBounds n
        return (count + 1, trailing)
      return (0, true)
    return (0, false)

/-- A type that starts with a parenthesis: a tuple, a bound with more of them, or a type by
itself. -/
def parenthesizedType (plus : Bool) : Parser TypeShape := do
  match ← read with
  | .group .paren content _ :: _ =>
    if content.isEmpty then
      advance 1
      return .other
    if atLifetime content then
      within .paren (objectBounds g true false false)
      return .other
    if at1 '?' content then
      within .paren (discard (traitBound g false))
      let more ← plusBounds g (← read).length
      return if more then .other else .bareBound
    let first : Parser (TypeShape × Bool) := do
      let shape ← g.type true
      if at1 ',' (← read) then
        advance 1
        discard (commaList (g.type true))
        return (shape, true)
      return (shape, false)
    let (shape, tuple) ← within .paren first
    if !tuple && plus && at1 '+' (← read) &&
        (shape = .name || shape = .path || shape = .bareBound) then
      discard (plusBounds g (← read).length)
    return .other
  | _ => failure

/-- One parameter of a function type. Only the first may be the receiver. -/
def functionTypeParameter (isFirst : Bool) : Parser Unit := do
  discard (outerAttributes g)
  let ts ← read
  let mutSelf := isFirst && atWord "mut" ts && atWord "self" (skip1 ts)
  if mutSelf then advance 1
  let ts ← read
  let named := (atIdentifier ts || atWord "_" ts || (isFirst && atWord "self" ts)) &&
    at1 ':' (skip1 ts) && !at2 ':' ':' (skip1 ts)
  if named then advance 2
  let ts ← read
  if isFirst && !named && atWord "mut" ts && atWord "self" (skip1 ts) then advance 2
  else if mutSelf && !named then eatWord "self"
  else discard (g.type true)

/-- The parameters of a function type; the last may stand for any number more. -/
def functionTypeParameters (isFirst : Bool) : Nat → Parser Unit
  | 0 => do guard (← read).isEmpty
  | n + 1 => do
    if (← read).isEmpty then return
    discard (outerAttributes g)
    let ts ← read
    if at3 '.' '.' '.' ts then
      advance 3
      whenAt (!·.isEmpty) (eat1 ',')
    else if (atIdentifier ts || atWord "_" ts) && at1 ':' (skip1 ts) &&
        at3 '.' '.' '.' (skip2 ts) then
      advance 5
      whenAt (!·.isEmpty) (eat1 ',')
    else
      functionTypeParameter g isFirst
      if (← read).isEmpty then return
      eat1 ','
      functionTypeParameters false n

def callingConvention : Parser Unit := do
  eatWord "extern"
  whenAt atString (advance 1)

def functionType : Parser Unit := do
  whenAt (atWord "for") g.binder
  discard (eatWord? "unsafe")
  whenAt (atWord "extern") callingConvention
  eatWord "fn"
  match ← read with
  | .group _ content _ :: _ => within .paren (functionTypeParameters g true content.length)
  | _ => failure
  resultType g false

/-- A path as a type: the use of a rule, a bound with more of them, or the type that it names. -/
def pathType (plus bound : Bool) : Parser TypeShape := do
  match ← qualifiedPath g false with
  | none => return .other
  | some shape =>
    let ts ← read
    if at1 '!' ts && !at2 '!' '=' ts && shape.isPlain then
      advance 1
      discard anyGroup
      return .other
    if bound || (plus && at1 '+' ts) then
      let (count, trailing) ← if plus then moreBareBounds g ts.length else pure (0, false)
      return if count = 0 && !trailing then .bareBound else .other
    return if !shape.leading && shape.segments = 1 then .name else .path

def arrayType : Parser Unit := within .bracket do
  discard (g.type true)
  if ← eat1? ';' then discard (g.expression true)

/-- A type. Bounds may be joined with `+` where the flag admits it. -/
def type (plus : Bool) : Parser TypeShape := do
  let bound := atWord "for" (← read)
  if bound then
    g.binder
    let ts ← read
    guard (atIdentifier ts || atWord "fn" ts || atWord "unsafe" ts || atWord "extern" ts ||
      atWord "super" ts || atWord "self" ts || atWord "Self" ts || atWord "crate" ts)
  let ts ← read
  if atGroup .paren ts then parenthesizedType g plus
  else if atWord "fn" ts || atWord "unsafe" ts || atWord "extern" ts then
    functionType g
    return .other
  else if atIdentifier ts || atWord "super" ts || atWord "self" ts || atWord "Self" ts ||
      atWord "crate" ts || at2 ':' ':' ts || at1 '<' ts then
    pathType g plus bound
  else if atWord "dyn" ts then
    advance 1
    discard (eat1? '*')
    objectBounds g plus false false
    return .other
  else if atGroup .bracket ts then
    arrayType g
    return .other
  else if at1 '*' ts then
    advance 1
    if !(← eatWord? "const") then eatWord "mut"
    discard (g.type false)
    return .other
  else if at1 '&' ts then
    advance 1
    whenAt atLifetime lifetime
    discard (eatWord? "mut")
    discard (g.type false)
    return .other
  else if at1 '!' ts && !at1 '=' ts then
    advance 1
    return .other
  else if atWord "impl" ts then
    advance 1
    objectBounds g plus true true
    return .other
  else if atWord "_" ts then
    advance 1
    return .other
  else if atLifetime ts then
    objectBounds g true false false
    return .other
  else failure

def lifetimeParameter : Parser Unit := do
  lifetime
  if ← eat1? ':' then
    discard (joinedUntil (fun ts => ts.isEmpty || at1 ',' ts || at1 '>' ts) '+' lifetime)

def typeParameter : Parser Unit := do
  discard identifier
  if ← eat1? ':' then
    boundsUntil g fun ts => ts.isEmpty || at1 ',' ts || at1 '>' ts || at1 '=' ts
  if ← eat1? '=' then discard (g.type true)

def constantParameter : Parser Unit := do
  eatWord "const"
  discard identifier
  eat1 ':'
  discard (g.type true)
  if ← eat1? '=' then constantArgument g

def genericParameter : Parser Unit := do
  discard (outerAttributes g)
  let ts ← read
  if atLifetime ts then lifetimeParameter
  else if atIdentifier ts then typeParameter g
  else constantParameter g

def binder : Parser Unit := do
  eatWord "for"
  eat1 '<'
  discard (separatedUntil (at1 '>') (eat1 ',') (genericParameter g))
  eat1 '>'

def genericParameters : Parser Bool := do
  if at1 '<' (← read) then
    advance 1
    discard <| separatedUntil (at1 '>') (eat1 ',') do
      discard (outerAttributes g)
      if atWord "_" (← read) then advance 1 else genericParameter g
    eat1 '>'
    return true
  return false

/-- Whether an angle bracket opens parameters and not a qualified path. -/
def opensParameters (ts : List Tree) : Bool :=
  let second := skip1 ts
  let third := skip2 ts
  at1 '<' ts && (at1 '>' second || at1 '#' second ||
    ((atLifetime second || atIdentifier second) &&
      (at1 '>' third || at1 ',' third || (at1 ':' third && !at2 ':' ':' third) || at1 '=' third)) ||
    atWord "const" second)

def endsPredicates (ts : List Tree) : Bool :=
  ts.isEmpty || atGroup .brace ts || at1 ',' ts || at1 ';' ts || (at1 ':' ts && !at2 ':' ':' ts) ||
    at1 '=' ts

def wherePredicate : Parser Unit := do
  let ts ← read
  if atLifetime ts && at1 ':' (skip1 ts) then
    lifetime
    eat1 ':'
    discard <| joinedUntil
      (fun ts => ts.isEmpty || atGroup .brace ts || at1 ',' ts || at1 ';' ts || at1 ':' ts || at1 '=' ts)
      '+' lifetime
  else
    whenAt (atWord "for") g.binder
    discard (g.type true)
    eat1 ':'
    boundsUntil g endsPredicates

/-- The conditions of a declaration, if it has some; says whether it has. -/
def whereClause : Parser Bool := do
  if ← eatWord? "where" then
    guard (!opensParameters (← read))
    discard (joinedUntil endsPredicates ',' (wherePredicate g))
    return true
  return false

end CommandGen.Source
