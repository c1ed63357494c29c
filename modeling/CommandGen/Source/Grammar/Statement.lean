import CommandGen.Source.Grammar.Expression

/-! The statements of a block. -/
namespace CommandGen.Source

variable (g : Grammar)

def usedRule : Parser Unit := do
  discard plainPath
  eat1 '!'

def atBracedUse (afterMark : List Tree) : Bool :=
  let next := skip1 afterMark
  atGroup .brace afterMark && !((at1 '.' next && !at2 '.' '.' next) || at1 '?' next)

def startsItem (ts : List Tree) : Bool :=
  let next := skip1 ts
  let third := skip2 ts
  atWord "pub" ts || (atWord "crate" ts && !at2 ':' ':' next) || atWord "extern" ts ||
    atWord "use" ts ||
    (atWord "static" ts && (atWord "mut" next || atIdentifier next)) ||
    (atWord "const" ts &&
      !(atGroup .brace next || atWord "static" next ||
        (atWord "async" next &&
          !(atWord "unsafe" third || atWord "extern" third || atWord "fn" third)) ||
        atWord "move" next || at1 '|' next)) ||
    (atWord "unsafe" ts && !atGroup .brace next) ||
    (atWord "async" ts && (atWord "unsafe" next || atWord "extern" next || atWord "fn" next)) ||
    atWord "fn" ts || atWord "mod" ts || atWord "type" ts ||
    atWord "struct" ts || atWord "enum" ts ||
    (atWord "union" ts && atIdentifier next) || (atWord "auto" ts && atWord "trait" next) ||
    atWord "trait" ts || (atWord "default" ts && (atWord "unsafe" next || atWord "impl" next)) ||
    atWord "impl" ts || atWord "macro" ts

def endsInBrace (before after : List Tree) : Bool :=
  atGroup .brace (before.drop (before.length - after.length - 1))

/-- A declaration of variables. A block for the other case follows only a value that does not end in
braces. -/
def letStatement : Parser Unit := do
  eatWord "let"
  discard g.pattern
  if ← eat1? ':' then discard (g.type true)
  if ← eat1? '=' then
    let before ← read
    discard (g.expression true)
    let after ← read
    if !endsInBrace before after && atWord "else" after then
      advance 1
      block g
  eat1 ';'

/-- One statement; says whether another one may follow it. The attributes of a declaration are its
own. -/
def statement : Parser Bool := do
  let ts ← (outerAttributes g).leaves
  let used := (usedRule.run ts).map (·.2)
  let declaresRule := used.any fun rest => atIdentifier rest || atWord "try" rest
  let bracedUse := !declaresRule && used.any atBracedUse
  if !bracedUse && !atWord "let" ts && (startsItem ts || declaresRule) then
    discard g.item
    return true
  discard (outerAttributes g)
  if bracedUse then
    usedRule
    advance 1
    discard (eat1? ';')
    return true
  if atWord "let" ts then
    letStatement g
    return true
  let shape ← g.statementExpression
  let ended ← eat1? ';'
  return ended || shape = .block || shape = .bracedCall

def statementsFor : Nat → Parser Unit
  | 0 => return
  | n + 1 => do
    if ← eat1? ';' then statementsFor n
    else if !(← read).isEmpty then
      let complete ← statement g
      if !(← read).isEmpty then
        guard complete
        statementsFor n

/-- Statements up to the end of a block. The last one needs no semicolon. -/
def statements : Parser Unit := do statementsFor g (← read).length

end CommandGen.Source
