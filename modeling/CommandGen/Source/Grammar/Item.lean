import CommandGen.Source.Grammar.Statement

/-! Declarations. -/
namespace CommandGen.Source

variable (g : Grammar)

/-- A visibility; says whether there is one. Parentheses after it belong to it only if they name a
module. -/
def visibility : Parser Bool := do
  if ← eatWord? "pub" then
    match ← read with
    | .group .paren [.word w _] _ :: _ =>
      if w = "crate" || w = "self" || w = "super" then advance 1
    | .group .paren (.word "in" _ :: _) _ :: _ =>
      within .paren do
        advance 1
        discard plainPath
    | _ => pure ()
    return true
  return false

/-- Marks in front of a function; declarations of foreign functions may have one more. -/
def functionMarks (foreign : Bool) : Parser Unit := do
  discard (eatWord? "const")
  discard (eatWord? "async")
  if !(← eatWord? "unsafe") && foreign then discard (eatWord? "safe")
  whenAt (atWord "extern") callingConvention

def startsFunction (foreign : Bool) (ts : List Tree) : Bool :=
  match (functionMarks foreign).run ts with
  | some (_, rest) => atWord "fn" rest
  | none => false

def receiver : Parser Unit := do
  if ← eat1? '&' then
    whenAt atLifetime lifetime
    discard (eatWord? "mut")
    eatWord "self"
  else
    discard (eatWord? "mut")
    eatWord "self"
    if ← eat1? ':' then discard (g.type true)

/-- A parameter that is no receiver; says whether it stands for any number more. -/
def parameter : Parser Bool := do
  let ts ← read
  if atIdentifier ts && at1 '<' (skip1 ts) then
    discard (g.type true)
    return false
  discard g.pattern
  eat1 ':'
  if at3 '.' '.' '.' (← read) then
    advance 3
    return true
  discard (g.type true)
  return false

/-- The parameters of a function. Only the first may be a receiver, and after one that stands for
any number more nothing follows. -/
def parameters (isFirst : Bool) : Nat → Parser Unit
  | 0 => do guard (← read).isEmpty
  | n + 1 => do
    if (← read).isEmpty then return
    discard (outerAttributes g)
    let ts ← read
    let open_ ← if at3 '.' '.' '.' ts then (do advance 3; return true)
      else match ← optional (receiver g) with
        | some _ => (do guard isFirst; return false)
        | none => parameter g
    if (← read).isEmpty then return
    eat1 ','
    if open_ then guard (← read).isEmpty else parameters false n

def signature (foreign : Bool) : Parser Unit := do
  functionMarks foreign
  eatWord "fn"
  discard identifier
  discard (genericParameters g)
  within .paren do parameters g true (← read).length
  resultType g true
  discard (whereClause g)

def function (foreign : Bool) : Parser Unit := do
  signature g foreign
  if !(← eat1? ';') then attributedBlock g

/-- The content of an unnamed field: a structure or a union. -/
def atUnnamedContent (ts : List Tree) : Bool :=
  atWord "struct" ts || (atWord "union" ts && atGroup .brace (skip1 ts))

def fields : Parser (List Field) := within .brace <| commaList do
  let attributes ← outerAttributes g
  discard visibility
  let unnamed := atWord "_" (← read)
  if unnamed then advance 1 else discard identifier
  eat1 ':'
  if unnamed && atUnnamedContent (← read) then
    advance 1
    discard g.fields
  else discard (g.type true)
  return ⟨attributes⟩

def tupleFields : Parser (List Field) := within .paren <| commaList do
  let attributes ← outerAttributes g
  discard visibility
  discard (g.type true)
  return ⟨attributes⟩

/-- What follows `struct`. Conditions stand before braces and after parentheses. -/
def structRest : Parser Item := do
  let (name, span) ← identifier
  discard (genericParameters g)
  let conditional ← whereClause g
  let ts ← read
  if !conditional && atGroup .paren ts then
    let found ← tupleFields g
    discard (whereClause g)
    eat1 ';'
    return .record ⟨name, span, found⟩
  else if atGroup .brace ts then return .record ⟨name, span, ← g.fields⟩
  else
    eat1 ';'
    return .record ⟨name, span, []⟩

def enumVariant : Parser Unit := do
  discard (outerAttributes g)
  discard visibility
  discard identifier
  let ts ← read
  if atGroup .brace ts then discard g.fields
  else if atGroup .paren ts then discard (tupleFields g)
  if ← eat1? '=' then discard (g.expression true)

def enumRest : Parser Unit := do
  discard identifier
  discard (genericParameters g)
  discard (whereClause g)
  discard (within .brace (commaList (enumVariant g)))

def unionRest : Parser Unit := do
  discard identifier
  discard (genericParameters g)
  discard (whereClause g)
  discard g.fields

/-- What follows `type`: a name, bounds, and what it stands for, with conditions before or after. -/
def typeAliasRest (before after : Bool) : Parser Unit := do
  discard identifier
  discard (genericParameters g)
  if ← eat1? ':' then boundsUntil g fun ts => atWord "where" ts || at1 '=' ts || at1 ';' ts
  let conditional ← if before then whereClause g else pure false
  if ← eat1? '=' then discard (g.type true)
  if after && !conditional then discard (whereClause g)
  eat1 ';'

def constantRest : Parser Unit := do
  if !(← eatWord? "_") then discard identifier
  discard (genericParameters g)
  eat1 ':'
  discard (g.type true)
  if ← eat1? '=' then discard (g.expression true)
  discard (whereClause g)
  eat1 ';'

def staticRest : Parser Unit := do
  discard (eatWord? "mut")
  discard identifier
  if ← eat1? '=' then discard (g.expression true)
  else
    eat1 ':'
    discard (g.type true)
    if ← eat1? '=' then discard (g.expression true)
  eat1 ';'

/-- The use of a rule between declarations; it ends with braces or a semicolon. At the outermost
level a name may stand in front of the brackets. -/
def ruleUse (named : Bool) : Parser Unit := do
  usedRule
  let ts ← read
  if named && (atIdentifier ts || atWord "try" ts) then advance 1
  if !(← anyGroup) then eat1 ';'

def startsRuleUse (ts : List Tree) : Bool :=
  atIdentifier ts || atWord "self" ts || atWord "super" ts || atWord "crate" ts || at2 ':' ':' ts

def foreignMember : Parser Unit := do
  discard (outerAttributes g)
  let visible ← visibility
  let ts ← read
  if startsFunction true ts then function g true
  else if atWord "static" ts ||
      ((atWord "unsafe" ts || atWord "safe" ts) && atWord "static" (skip1 ts)) then
    if !(← eatWord? "static") then advance 2
    discard (eatWord? "mut")
    discard identifier
    eat1 ':'
    discard (g.type true)
    if ← eat1? '=' then discard (g.expression true)
    eat1 ';'
  else if ← eatWord? "type" then typeAliasRest g true true
  else
    guard (!visible && startsRuleUse ts)
    ruleUse false

def traitMember : Parser Unit := do
  discard (outerAttributes g)
  let visible ← visibility
  let default ← eatWord? "default"
  let ts ← read
  if startsFunction false ts then function g false
  else if ← eatWord? "const" then constantRest g
  else if ← eatWord? "type" then typeAliasRest g false true
  else
    guard (!visible && !default && startsRuleUse ts)
    ruleUse false

def implMember : Parser Unit := do
  discard (outerAttributes g)
  let visible ← visibility
  let ts ← read
  let default := atWord "default" ts && !at1 '!' (skip1 ts)
  if default then advance 1
  let ts ← read
  if startsFunction false ts then function g false
  else if ← eatWord? "const" then constantRest g
  else if ← eatWord? "type" then typeAliasRest g false true
  else
    guard (!visible && !default && startsRuleUse ts)
    ruleUse false

def memberBlock (member : Parser Unit) : Parser Unit := within .brace do
  innerAttributes g
  discard (repeatUntil List.isEmpty member)

def foreignModule : Parser Unit := do
  discard (eatWord? "unsafe")
  callingConvention
  memberBlock g (foreignMember g)

/-- What follows `trait`, up to its members or, for an alias, its bounds. -/
def traitRest (canBeAlias : Bool) : Parser Unit := do
  discard identifier
  discard (genericParameters g)
  let ts ← read
  if canBeAlias && at1 '=' ts then
    advance 1
    boundsUntil g fun ts => atWord "where" ts || at1 ';' ts
    discard (whereClause g)
    eat1 ';'
  else
    if ← eat1? ':' then boundsUntil g fun ts => atWord "where" ts || atGroup .brace ts
    discard (whereClause g)
    memberBlock g (traitMember g)

def implRest : Parser Unit := do
  if opensParameters (← read) then discard (genericParameters g)
  let ts ← read
  if atWord "const" ts then advance 1
  else if at1 '?' ts && atWord "const" (skip1 ts) then advance 2
  let ts ← read
  if at1 '!' ts && !atGroup .brace (skip1 ts) then advance 1
  discard (g.type true)
  if ← eatWord? "for" then discard (g.type true)
  discard (whereClause g)
  memberBlock g (implMember g)

def useName : Parser Unit := do
  if !(← eatWord? "_") then discard identifier

def useTree (root : Bool) : Parser Unit := do
  let ts ← read
  if atIdentifier ts || atWord "self" ts || atWord "super" ts ||
      atWord "crate" ts || atWord "try" ts then
    advance 1
    if at2 ':' ':' (← read) then
      advance 2
      g.useTree false
    else if ← eatWord? "as" then useName
  else if at1 '*' ts then advance 1
  else discard <| within .brace <| commaList do
    let rooted := root && at2 ':' ':' (← read)
    if rooted then advance 2
    g.useTree (root && !rooted)

def useRest : Parser Unit := do
  let rooted := at2 ':' ':' (← read)
  if rooted then advance 2
  g.useTree !rooted
  eat1 ';'

def packageRest : Parser Unit := do
  if !(← eatWord? "self") then discard identifier
  if ← eatWord? "as" then useName
  eat1 ';'

/-- What follows `mod`: a module in place, or the name of one that is somewhere else. -/
def moduleRest : Parser Item := do
  if !(← eatWord? "try") then discard identifier
  if ← eat1? ';' then return .other
  within .brace do
    innerAttributes g
    return .inlineModule (← repeatUntil List.isEmpty g.item)

def ruleRest : Parser Unit := do
  discard identifier
  whenAt (atGroup .paren) (advance 1)
  anyContent .brace

def itemRest (visible : Bool) : Parser Item := do
  let ts ← read
  let next := skip1 ts
  let other (p : Parser Unit) : Parser Item := do
    p
    return .other
  if startsFunction false ts then other (function g false)
  else if atWord "extern" ts then
    if atWord "crate" next then other (do advance 2; packageRest)
    else other (do guard !visible; foreignModule g)
  else if ← eatWord? "use" then other (useRest g)
  else if ← eatWord? "static" then other (staticRest g)
  else if ← eatWord? "const" then other (constantRest g)
  else if atWord "unsafe" ts then
    if atWord "trait" next then other (do advance 2; traitRest g false)
    else if atWord "auto" next && atWord "trait" (skip2 ts) then
      other (do advance 3; traitRest g false)
    else if atWord "impl" next then other (do advance 2; implRest g)
    else if atWord "extern" next then other (do guard !visible; foreignModule g)
    else
      advance 1
      eatWord "mod"
      moduleRest g
  else if ← eatWord? "mod" then moduleRest g
  else if ← eatWord? "type" then other (typeAliasRest g true false)
  else if ← eatWord? "struct" then structRest g
  else if ← eatWord? "enum" then other (enumRest g)
  else if atWord "union" ts && atIdentifier next then other (do advance 1; unionRest g)
  else if ← eatWord? "trait" then other (traitRest g true)
  else if atWord "auto" ts && atWord "trait" next then other (do advance 2; traitRest g false)
  else if atWord "impl" ts || (atWord "default" ts && !at1 '!' next) then
    discard (eatWord? "default")
    discard (eatWord? "unsafe")
    eatWord "impl"
    other (implRest g)
  else if ← eatWord? "macro" then other ruleRest
  else
    guard (!visible && startsRuleUse ts)
    other (ruleUse true)

def item : Parser Item := do
  discard (outerAttributes g)
  itemRest g (← visibility)

end CommandGen.Source
