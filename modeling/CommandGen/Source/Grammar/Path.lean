import CommandGen.Source.Grammar.Shape

/-! Attributes, blocks, paths and their arguments. -/
namespace CommandGen.Source

variable (g : Grammar)

/-- A path of plain names, with whether it starts with a separator. -/
def plainPath : Parser (Bool × List String) := do
  let leading := at2 ':' ':' (← read)
  if leading then advance 2
  let isName (ts : List Tree) : Bool :=
    atIdentifier ts || atWord "super" ts || atWord "self" ts ||
    atWord "Self" ts || atWord "crate" ts
  let rec names : Nat → Parser (List String)
    | 0 => failure
    | n + 1 => do
      guard (isName (← read))
      let (name, _) ← anyWord
      if at2 ':' ':' (← read) then
        advance 2
        let more ← names n
        return name :: more
      return [name]
  let found ← names (← read).length
  return (leading, found)

def attributePath : Parser (Option String) := do
  if ← eatWord? "unsafe" then return some "unsafe"
  match ← plainPath with
  | (false, [name]) => return some name
  | _ => return none

def soleString : List Tree → Option (String × Span)
  | [.literal (.string s) span] => some (s, span)
  | _ => none

/-- What stands in the brackets of an attribute: its name and the string literal that it holds. -/
def attributeContent : Parser (Option String × Option (String × Span)) := do
  let name ← attributePath
  match ← read with
  | .group _ content _ :: _ =>
    advance 1
    return (name, soleString content)
  | ts =>
    if at1 '=' ts then
      let value := ts.tail
      if literalLength value = some value.length then
        advance ts.length
        return (name, soleString value)
      else if at1 '#' value && atGroup .bracket (skip1 value) then failure
      else
        advance 1
        discard (g.expression true)
        return (name, none)
    else return (name, none)

def outerAttribute : Parser Attribute := do
  match ← read with
  | .mark '#' _ first :: .group .bracket _ last :: _ =>
    advance 1
    let (name, value) ← within .bracket (attributeContent g)
    return ⟨name, value, ⟨first.start, last.stop⟩⟩
  | _ => failure

def outerAttributes : Parser (List Attribute) :=
  repeatUntil (fun ts => !at1 '#' ts) (outerAttribute g)

def atInnerAttribute (ts : List Tree) : Bool := at1 '#' ts && at1 '!' (skip1 ts)

def innerAttributes : Parser Unit := do
  discard <| repeatUntil (fun ts => !atInnerAttribute ts) do
    advance 2
    discard (within .bracket (attributeContent g))

def block : Parser Unit := within .brace g.statements

def attributedBlock : Parser Unit := within .brace do
  innerAttributes g
  g.statements

def constantArgument : Parser Unit := do
  let ts ← read
  if atLiteral ts then literal
  else if atIdentifier ts then discard identifier
  else if atGroup .brace ts then attributedBlock g
  else failure

def boundsUntil (stop : List Tree → Bool) : Parser Unit :=
  discard (joinedUntil stop '+' (g.bound false true))

/-- One argument of a path: a lifetime, a constant, a type, or a name with what it is or is bound
by. -/
def genericArgument : Parser Unit := do
  let ts ← read
  if atLifetime ts && !at1 '+' (skip1 ts) then lifetime
  else if atLiteral ts || atGroup .brace ts then constantArgument g
  else
    let shape ← g.type true
    if shape = .name then
      if ← eat1? '=' then
        let ts ← read
        if atLiteral ts || atGroup .brace ts then constantArgument g
        else discard (g.type true)
      else if ← eat1? ':' then boundsUntil g fun ts => at1 ',' ts || at1 '>' ts

def genericArguments : Parser ArgumentShape := do
  whenAt (at2 ':' ':') (advance 2)
  eat1 '<'
  let arguments ← separatedUntil (at1 '>') (eat1 ',') (genericArgument g)
  eat1 '>'
  return if arguments.isEmpty then .empty else .present

/-- A segment of a path with its arguments. In an expression they need a separator in front. -/
def pathSegment (inExpression : Bool) : Parser ArgumentShape := do
  let ts ← read
  if atWord "super" ts || atWord "self" ts || atWord "crate" ts || atWord "try" ts then
    advance 1
    return .absent
  if atWord "Self" ts then advance 1 else discard identifier
  let ts ← read
  let opens := !inExpression && at1 '<' ts && !at2 '<' '=' ts && !at3 '<' '<' '=' ts
  if opens || atSeparatorBefore (at1 '<') ts then genericArguments g else return .absent

/-- Segments after the first one; a separator before a parenthesis is left. -/
def moreSegments (inExpression : Bool) (shape : PathShape) : Nat → Parser PathShape
  | 0 => return shape
  | n + 1 => do
    let ts ← read
    if at2 ':' ':' ts && !atGroup .paren (skip2 ts) then
      advance 2
      moreSegments inExpression (shape.extend (← pathSegment g inExpression)) n
    else return shape

def path (inExpression : Bool) : Parser PathShape := do
  let leading := at2 ':' ':' (← read)
  if leading then advance 2
  let arguments ← pathSegment g inExpression
  moreSegments g inExpression (PathShape.extend ⟨leading, 0, true, .absent⟩ arguments)
    (← read).length

/-- A path that may start in a type: `<T as Trait>::Name`. Nothing is said of the shape of one that
does. -/
def qualifiedPath (inExpression : Bool) : Parser (Option PathShape) := do
  if at1 '<' (← read) then
    advance 1
    discard (g.type true)
    if ← eatWord? "as" then discard (path g false)
    eat1 '>'
    eat2 ':' ':'
    let rec segments : Nat → Parser Unit
      | 0 => failure
      | n + 1 => do
        discard (pathSegment g inExpression)
        if at2 ':' ':' (← read) then
          advance 2
          segments n
    segments (← read).length
    return none
  else return some (← path g inExpression)

end CommandGen.Source
