import CommandGen.Source.Tree

/-! Parsers over lists of trees: what stands at the front, taking it, and lists of things. A parser
that fails takes nothing. -/
namespace CommandGen.Source

variable {α β : Type}

/-- A parser takes trees from the front of a list and leaves the others as they are. -/
structure Parser (α : Type) where
  run : List Tree → Option (α × List Tree)
  isSuffix : ∀ {ts a rest}, run ts = some (a, rest) → rest <:+ ts

namespace Parser

instance : Monad Parser where
  pure a := ⟨fun ts => some (a, ts), by rintro _ _ _ ⟨⟩; exact List.suffix_rfl⟩
  bind p q := {
    run ts :=
      match p.run ts with
      | some (a, rest) => (q a).run rest
      | none => none
    isSuffix {ts b rest} h := by
      split at h
      · rename_i a mid hp
        exact ((q a).isSuffix h).trans (p.isSuffix hp)
      · cases h }

/-- The second parser goes back to where the first one started. -/
instance : Alternative Parser where
  failure := ⟨fun _ => none, by rintro _ _ _ ⟨⟩⟩
  orElse p q := {
    run ts :=
      match p.run ts with
      | some found => some found
      | none => (q ()).run ts
    isSuffix {ts a rest} h := by
      split at h
      · rename_i hp
        exact p.isSuffix (hp.trans h)
      · exact (q ()).isSuffix h }

/-- All trees that are left. -/
instance : MonadReader (List Tree) Parser where
  read := ⟨fun ts => some (ts, ts), by rintro _ _ _ ⟨⟩; exact List.suffix_rfl⟩

/-- A parser that is made when it runs. -/
def delay (p : Unit → Parser α) : Parser α := ⟨fun ts => (p ()).run ts, fun h => (p ()).isSuffix h⟩

def leaves (p : Parser α) : Parser (List Tree) where
  run ts := (p.run ts).map fun (_, rest) => (rest, ts)
  isSuffix {ts a rest} h := by
    obtain ⟨_, -, ⟨⟩⟩ := Option.map_eq_some_iff.mp h
    exact List.suffix_rfl

end Parser

def at1 (a : Char) : List Tree → Bool
  | .mark c _ _ :: _ => c == a
  | _ => false

def at2 (a b : Char) : List Tree → Bool
  | .mark c true _ :: .mark d _ _ :: _ => c == a && d == b
  | _ => false

def at3 (a b c : Char) : List Tree → Bool
  | .mark x true _ :: .mark y true _ :: .mark z _ _ :: _ => x == a && y == b && z == c
  | _ => false

def atMarks : List Char → List Tree → Bool
  | [], _ => true
  | [c], .mark d _ _ :: _ => c == d
  | c :: more, .mark d true _ :: rest => c == d && atMarks more rest
  | _, _ => false

def atWord (w : String) : List Tree → Bool
  | .word t _ :: _ => t == w
  | _ => false

def atAnyWord : List Tree → Bool
  | .word .. :: _ => true
  | _ => false

/-- Words that are no identifiers unless they are raw: those in use, those kept for later, and the
low line. -/
def reservedWords : List String :=
  ["_", "abstract", "as", "async", "await", "become", "box", "break", "const", "continue", "crate",
   "do", "dyn", "else", "enum", "extern", "false", "final", "fn", "for", "if", "impl", "in", "let",
   "loop", "macro", "match", "mod", "move", "mut", "override", "priv", "pub", "ref", "return",
   "Self", "self", "static", "struct", "super", "trait", "true", "try", "type", "typeof", "unsafe",
   "unsized", "use", "virtual", "where", "while", "yield"]

def atIdentifier : List Tree → Bool
  | .word t _ :: _ => !reservedWords.contains t
  | _ => false

def atGroup (d : Delimiter) : List Tree → Bool
  | .group e _ _ :: _ => e == d
  | _ => false

def atLifetime : List Tree → Bool
  | .mark '\'' true _ :: .word .. :: _ => true
  | _ => false

def atString : List Tree → Bool
  | .literal (.string _) _ :: _ => true
  | _ => false

def Literal.isNumber : Literal → Bool
  | .integer _ | .float _ => true
  | _ => false

/-- The number of trees of a literal: a truth value and a negative number are literals too. -/
def literalLength : List Tree → Option Nat
  | .literal .. :: _ => some 1
  | .word t _ :: _ => if t == "true" || t == "false" then some 1 else none
  | .mark '-' _ _ :: .literal l _ :: _ => if l.isNumber then some 2 else none
  | _ => none

def atLiteral (ts : List Tree) : Bool := (literalLength ts).isSome

/-- Past the first tree; a lifetime counts as one. -/
def skip1 : List Tree → List Tree
  | .mark '\'' true _ :: .word .. :: rest => rest
  | _ :: rest => rest
  | [] => []

def skip2 (ts : List Tree) : List Tree := skip1 (skip1 ts)

/-- The path separator with a tree after it that meets a condition. -/
def atSeparatorBefore (p : List Tree → Bool) (ts : List Tree) : Bool :=
  at2 ':' ':' ts && p (skip2 ts)

def takeTree : Parser Tree where
  run
    | t :: rest => some (t, rest)
    | [] => none
  isSuffix {ts a rest} h := by
    split at h
    · obtain ⟨⟩ := h
      exact List.suffix_cons _ _
    · cases h

def advance (n : Nat) : Parser Unit where
  run ts := if n ≤ ts.length then some ((), ts.drop n) else none
  isSuffix h := by
    split at h
    · obtain ⟨⟩ := h
      exact List.drop_suffix _ _
    · cases h

def eat1 (a : Char) : Parser Unit := do
  guard (at1 a (← read))
  advance 1

def eat2 (a b : Char) : Parser Unit := do
  guard (at2 a b (← read))
  advance 2

def eatWord (w : String) : Parser Unit := do
  guard (atWord w (← read))
  advance 1

def eatWord? (w : String) : Parser Bool := do
  if atWord w (← read) then
    advance 1
    return true
  return false

def eat1? (a : Char) : Parser Bool := do
  if at1 a (← read) then
    advance 1
    return true
  return false

def anyWord : Parser (String × Span) := do
  match ← takeTree with
  | .word t span => return (t, span)
  | _ => failure

def identifier : Parser (String × Span) := do
  guard (atIdentifier (← read))
  anyWord

def lifetime : Parser Unit := do
  guard (atLifetime (← read))
  advance 2

def literal : Parser Unit := do
  match literalLength (← read) with
  | some n => advance n
  | none => failure

def within (d : Delimiter) (p : Parser α) : Parser α := do
  match ← takeTree with
  | .group e content _ =>
    guard (e = d)
    match p.run content with
    | some (a, []) => return a
    | _ => failure
  | _ => failure

def anyContent (d : Delimiter) : Parser Unit := do
  guard (atGroup d (← read))
  advance 1

def atAnyGroup : List Tree → Bool
  | .group .. :: _ => true
  | _ => false

/-- A group of any kind with anything in it; says whether it is in braces. -/
def anyGroup : Parser Bool := do
  match ← takeTree with
  | .group d _ _ => return d = .brace
  | _ => failure

def whenAt (cond : List Tree → Bool) (p : Parser Unit) : Parser Unit := do
  if cond (← read) then p

def repeatFor (stop : List Tree → Bool) (p : Parser α) : Nat → Parser (List α)
  | 0 => do
    guard (stop (← read))
    return []
  | n + 1 => do
    if stop (← read) then return []
    let a ← p
    let more ← repeatFor stop p n
    return a :: more

def repeatUntil (stop : List Tree → Bool) (p : Parser α) : Parser (List α) := do
  repeatFor stop p (← read).length

def separatedFor (stop : List Tree → Bool) (separator : Parser Unit) (p : Parser α) :
    Nat → Parser (List α)
  | 0 => do
    guard (stop (← read))
    return []
  | n + 1 => do
    if stop (← read) then return []
    let a ← p
    if stop (← read) then return [a]
    separator
    let more ← separatedFor stop separator p n
    return a :: more

/-- Things with a separator between them and perhaps one at the end, up to a stop. -/
def separatedUntil (stop : List Tree → Bool) (separator : Parser Unit) (p : Parser α) :
    Parser (List α) := do
  separatedFor stop separator p (← read).length

/-- Things with commas between them and perhaps one at the end, up to the end of a group. -/
def commaList (p : Parser α) : Parser (List α) := separatedUntil List.isEmpty (eat1 ',') p

def joinedFor (stop : List Tree → Bool) (separator : Char) (p : Parser α) : Nat → Parser (List α)
  | 0 => do
    guard (stop (← read))
    return []
  | n + 1 => do
    if stop (← read) then return []
    let a ← p
    if ← eat1? separator then
      let more ← joinedFor stop separator p n
      return a :: more
    return [a]

/-- Things for as long as a separator follows; the list may also end at a stop. -/
def joinedUntil (stop : List Tree → Bool) (separator : Char) (p : Parser α) : Parser (List α) := do
  joinedFor stop separator p (← read).length

end CommandGen.Source
