import CommandGen.Source.Literal
import CommandGen.Source.Trivia

/-! Source text as a list of tokens, each with the stretch of characters that it takes. -/
namespace CommandGen.Source

open Text

/-- Characters of a text from a start up to a stop, counted from zero. -/
structure Span where
  start : Nat
  stop : Nat
deriving DecidableEq, Inhabited

inductive Delimiter where
  | paren
  | bracket
  | brace
deriving DecidableEq

inductive Token where
  /-- An identifier or keyword as it is written, with its raw mark if it has one. -/
  | word (text : String)
  /-- A punctuation character, joined if another one follows at once. -/
  | mark (char : Char) (joined : Bool)
  | literal (value : Literal)
  | doc (comment : DocComment)
  | opening (delimiter : Delimiter)
  | closing (delimiter : Delimiter)

def markAt (s : List Char) : Option Char :=
  match s with
  | '/' :: '/' :: _ | '/' :: '*' :: _ => none
  | c :: _ => if "~!@#$%^&*-=+|;:,<.>/?'".toList.contains c then some c else none
  | [] => none

def unraw : List (List Char) :=
  ["_".toList, "super".toList, "self".toList, "Self".toList, "crate".toList]

def identifierWidth : List Char → Option Nat
  | 'r' :: '#' :: rest =>
    match plainIdentifierWidth rest with
    | some w => if unraw.contains (rest.take w) then none else some (w + 2)
    | none => none
  | s => plainIdentifierWidth s

/-- Starts of literals: where one of them stands and no literal does, there is no identifier
either. -/
def literalStarts : List (List Char) :=
  ["r\"", "r#\"", "r##", "b\"", "b'", "br\"", "br#", "c\"", "cr\"", "cr#"].map String.toList

def wordAt (s : List Char) : Option (Token × Nat) :=
  if literalStarts.any (·.isPrefixOf s) then none
  else (identifierWidth s).map fun w => (.word (String.ofList (s.take w)), w)

/-- A lifetime mark has an identifier after it that does not run into another quote. -/
def opensLifetime (rest : List Char) : Bool :=
  match identifierWidth rest with
  | none => false
  | some w =>
    match (rest.drop w).head? with
    | some '\'' => false
    | some '#' => ['r', '#'].isPrefixOf rest
    | _ => true

def punctuationAt (s : List Char) : Option (Token × Nat) :=
  match markAt s with
  | none => none
  | some c =>
    let rest := s.tail
    if c = '\'' then if opensLifetime rest then some (.mark c true, 1) else none
    else some (.mark c (markAt rest).isSome, 1)

/-- The text of a literal that stands for a fault and is accepted as one token. -/
def faultLiteral : List Char := "(/*ERROR*/)".toList

def delimiterAt : Char → Option Token
  | '(' => some (.opening .paren)
  | '[' => some (.opening .bracket)
  | '\x7b' => some (.opening .brace)
  | ')' => some (.closing .paren)
  | ']' => some (.closing .bracket)
  | '\x7d' => some (.closing .brace)
  | _ => none

/-- The token at the start of a text that has no blank or ordinary comment there. -/
def tokenAt (s : List Char) : Option (Token × Nat) :=
  match docComment? s with
  | some d => some (.doc d, d.width)
  | none =>
    if faultLiteral.isPrefixOf s then some (.literal .other, faultLiteral.length)
    else match s.head? >>= delimiterAt with
      | some t => some (t, 1)
      | none =>
        ((literal? s).map fun (l, w) => (.literal l, w)).orElse fun _ =>
          (punctuationAt s).orElse fun _ => wordAt s

/-- The tokens of a text; `known` more characters belong to what stood before, and `at` counts the
characters so far. There are none where some stretch is no token. -/
def tokensFrom (at_ : Nat) : Nat → List Char → Option (List (Token × Span))
  | _, [] => some []
  | known + 1, _ :: rest => tokensFrom (at_ + 1) known rest
  | 0, c :: rest =>
    match triviaWidth (c :: rest) with
    | some w => tokensFrom (at_ + 1) (w - 1) rest
    | none =>
      match tokenAt (c :: rest) with
      | some (t, w) => (tokensFrom (at_ + 1) (w - 1) rest).map ((t, ⟨at_, at_ + w⟩) :: ·)
      | none => none

def byteOrderMark : Char := '\ufeff'

/-- The tokens of a text. A byte order mark in front is passed over and counted. -/
def tokens : List Char → Option (List (Token × Span))
  | [] => some []
  | c :: rest => if c = byteOrderMark then tokensFrom 1 0 rest else tokensFrom 0 0 (c :: rest)

end CommandGen.Source
