import CommandGen.Toml.Scalar
import CommandGen.Toml.Value

/-! Reading TOML text. -/
namespace CommandGen.Toml

open Text

abbrev Reader := StateT (List Char) Option

variable {α : Type}

def isGap (c : Char) : Bool := c == ' ' || c == '\t'

/-- What may stand in a comment or a literal: no control but the tab. -/
def isPrintable (c : Char) : Bool := c == '\t' || (0x20 ≤ c.toNat && c.toNat ≠ 0x7F)

def skip (n : Nat) : Reader Unit := modify (·.drop n)

def skipGap : Reader Unit := modify (·.dropWhile isGap)

def expect (mark : Char) : Reader Unit := do
  guard ((← get).head? = some mark)
  skip 1

def lineEnd? : List Char → Option Nat
  | '\n' :: _ => some 1
  | '\r' :: '\n' :: _ => some 2
  | _ => none

def comment : Reader Unit := do
  let s ← get
  if s.head? = some '#' then
    let text := s.takeWhile fun c => c ≠ '\n' && c ≠ '\r'
    guard (text.all isPrintable)
    set (s.drop text.length)

def space : Reader Unit := do
  let rec go : Nat → Reader Unit
    | 0 => return
    | n + 1 => do
      skipGap
      comment
      match lineEnd? (← get) with
      | some w =>
        skip w
        go n
      | none => return
  go ((← get).length + 1)

/-- The character that a letter or mark after a backslash stands for. -/
def simpleEscape? : Char → Option Char
  | 'b' => some '\x08'
  | 't' => some '\t'
  | 'n' => some '\n'
  | 'f' => some '\x0c'
  | 'r' => some '\r'
  | 'e' => some '\x1b'
  | '"' => some '"'
  | '\\' => some '\\'
  | _ => none

def numberedEscape? (width : Nat) (s : List Char) : Option (Char × List Char) := do
  let digits := s.take width
  guard (digits.length = width)
  return (← charOfNumber? (← hexNumber? digits), s.drop width)

def escape? (s : List Char) : Option (Char × List Char) :=
  match s with
  | 'x' :: rest => numberedEscape? 2 rest
  | 'u' :: rest => numberedEscape? 4 rest
  | 'U' :: rest => numberedEscape? 8 rest
  | c :: rest => (simpleEscape? c).map (·, rest)
  | [] => none

/-- A line end that a backslash takes away, with the gap before it and all gaps and lines after
it. -/
def brokenLine? (s : List Char) : Option (List Char) := do
  let s := s.dropWhile isGap
  let w ← lineEnd? s
  let rec go : Nat → List Char → List Char
    | 0, s => s
    | n + 1, s =>
      let s := s.dropWhile isGap
      match lineEnd? s with
      | some w => go n (s.drop w)
      | none => s
  return go s.length (s.drop w)

/-- The quotes at the end of a text of several lines: three, and up to two more that belong to
it. -/
def closing? (quote : Char) (s : List Char) : Option (List Char × List Char) :=
  let run := min 5 (s.takeWhile (· == quote)).length
  if 3 ≤ run then some (List.replicate (run - 3) quote, s.drop run) else none

/-- A quoted text after its opening quotes. In text of several lines a line end stands for itself;
escapes are read between double quotes only. -/
def quotedFor (quote : Char) (escapes lines : Bool) :
    Nat → List Char → Option (List Char × List Char)
  | 0, _ => none
  | n + 1, s =>
    let more (front rest : List Char) : Option (List Char × List Char) :=
      (quotedFor quote escapes lines n rest).map fun (text, rest) => (front ++ text, rest)
    match (if lines then closing? quote s else none) with
    | some found => some found
    | none =>
      match s with
      | [] => none
      | c :: rest =>
        if c = quote && !lines then some ([], rest)
        else if escapes && c = '\\' then
          match (if lines then brokenLine? rest else none) with
          | some rest => more [] rest
          | none => escape? rest >>= fun (d, rest) => more [d] rest
        else if isPrintable c then more [c] rest
        else match (if lines then lineEnd? s else none) with
          | some w => more (s.take w) (s.drop w)
          | none => none

/-- A text in double or single quotes. A line end right after three quotes is no part of it. -/
def quotedText (quote : Char) (lines : Bool) : Reader String := do
  skip (if lines then 3 else 1)
  if lines then skip ((lineEnd? (← get)).getD 0)
  let s ← get
  match quotedFor quote (quote == '"') lines (s.length + 1) s with
  | some (text, rest) =>
    set rest
    return String.ofList text
  | none => failure

def opensLines (quote : Char) (s : List Char) : Bool := [quote, quote, quote].isPrefixOf s

def isNameChar (c : Char) : Bool := c.isAlphanum || c == '-' || c == '_'

def simpleName : Reader String := do
  let s ← get
  match s.head? with
  | some '"' | some '\'' =>
    let quote := s.head?.getD '"'
    guard (!opensLines quote s)
    quotedText quote false
  | _ =>
    let name := s.takeWhile isNameChar
    guard (!name.isEmpty)
    skip name.length
    return String.ofList name

def dottedName : Reader (List String) := do
  let rec go : Nat → Reader (List String)
    | 0 => failure
    | n + 1 => do
      skipGap
      let name ← simpleName
      skipGap
      if (← get).head? = some '.' then
        skip 1
        return name :: (← go n)
      return [name]
  go (← get).length

def endsScalar (c : Char) : Bool :=
  isGap c || c == '\n' || c == '\r' || ",=#[]".toList.contains c || c == '\x7b' || c == '\x7d'

/-- A value without quotes. A space may stand between a date and a time. -/
def scalar : Reader Value := do
  let s ← get
  let first := s.takeWhile (!endsScalar ·)
  let rest := s.drop first.length
  let text := match rest with
    | ' ' :: more =>
      if date? first = some [] && more.head?.any Char.isDigit then
        first ++ ' ' :: more.takeWhile (!endsScalar ·)
      else first
    | _ => first
  guard (isScalar text)
  skip text.length
  return .scalar

def plainValue : Reader Value := do
  let s ← get
  match s.head? with
  | some '"' => return .text (← quotedText '"' (opensLines '"' s))
  | some '\'' => return .text (← quotedText '\'' (opensLines '\'' s))
  | _ => scalar

/-- Things between commas up to a closing bracket; a comma may stand at the end. -/
def listUntil (close : Char) (item : Reader α) : Nat → Reader (List α)
  | 0 => failure
  | n + 1 => do
    space
    if (← get).head? = some close then
      skip 1
      return []
    let a ← item
    space
    if (← get).head? = some ',' then
      skip 1
      return a :: (← listUntil close item n)
    expect close
    return [a]

def pair (value : Reader Value) : Reader (List String × Value) := do
  let name ← dottedName
  expect '='
  skipGap
  return (name, ← value)

def value : Nat → Reader Value
  | 0 => plainValue
  | depth + 1 => do
    let s ← get
    match s.head? with
    | some '[' =>
      skip 1
      return .array false (← listUntil ']' (value depth) s.length)
    | some '\x7b' =>
      skip 1
      let pairs ← listUntil '\x7d' (pair (value depth)) s.length
      match Entries.putAll? pairs [] with
      | some entries => return .table .inline entries
      | none => failure
    | _ => plainValue

def maxDepth : Nat := 80

def lineRest : Reader Unit := do
  skipGap
  comment
  match lineEnd? (← get) with
  | some w => skip w
  | none => guard (← get).isEmpty

def pairs : Nat → Reader (List (List String × Value))
  | 0 => return []
  | n + 1 => do
    space
    match (← get).head? with
    | none | some '[' => return []
    | _ =>
      let p ← pair (value maxDepth)
      lineRest
      return p :: (← pairs n)

structure Section where
  /-- The table is one more of a list. -/
  isItem : Bool
  name : List String
  pairs : List (List String × Value)

def sections : Nat → Reader (List Section)
  | 0 => return []
  | n + 1 => do
    if (← get).isEmpty then return []
    expect '['
    let isItem := (← get).head? = some '['
    if isItem then skip 1
    let name ← dottedName
    expect ']'
    if isItem then expect ']'
    lineRest
    let found ← pairs (← get).length
    return ⟨isItem, name, found⟩ :: (← sections n)

def Section.addTo? (root : Entries) (s : Section) : Option Entries :=
  let fill := Entries.putAll? s.pairs
  root.change? (if s.isItem then Entries.openItem fill else Entries.openTable fill) s.name

def document : Reader Entries := do
  let first ← pairs (← get).length
  let more ← sections (← get).length
  match Entries.putAll? first [] >>= (more.foldlM Section.addTo? ·) with
  | some root => return root
  | none => failure

def read? (text : String) : Option Entries :=
  let s := match text.toList with
    | [] => []
    | c :: rest => if c = '\ufeff' then rest else c :: rest
  match document.run s with
  | some (root, []) => some root
  | _ => none

end CommandGen.Toml
