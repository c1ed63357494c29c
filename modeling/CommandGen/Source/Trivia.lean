import CommandGen.Text.Blank

/-! Blanks and comments of source text. Every function gives the number of characters from the start
of the text that it is about. -/
namespace CommandGen.Source

/-- A line up to its end; of a two-character line end the carriage return belongs to the line. -/
def lineWidth : List Char → Nat
  | [] => 0
  | '\n' :: _ => 0
  | '\r' :: '\n' :: _ => 1
  | _ :: rest => 1 + lineWidth rest

def lineText : List Char → List Char
  | [] => []
  | '\n' :: _ => []
  | '\r' :: '\n' :: _ => []
  | c :: rest => c :: lineText rest

/-- The rest of a block comment in which so many comments are open; they nest. -/
def blockRestWidth (depth : Nat) : List Char → Option Nat
  | [] => none
  | '/' :: '*' :: rest => (blockRestWidth (depth + 1) rest).map (· + 2)
  | '*' :: '/' :: rest =>
    if depth = 1 then some 2 else (blockRestWidth (depth - 1) rest).map (· + 2)
  | _ :: rest => (blockRestWidth depth rest).map (· + 1)

def blockWidth : List Char → Option Nat
  | '/' :: '*' :: rest => (blockRestWidth 1 rest).map (· + 2)
  | _ => none

/-- An ordinary comment: one that documents nothing. -/
def commentWidth (s : List Char) : Option Nat :=
  match s with
  | '/' :: '/' :: '/' :: '/' :: _ => some (lineWidth s)
  | '/' :: '/' :: '/' :: _ => none
  | '/' :: '/' :: '!' :: _ => none
  | '/' :: '/' :: _ => some (lineWidth s)
  | '/' :: '*' :: '*' :: '/' :: _ => some 4
  | '/' :: '*' :: '*' :: '*' :: _ => blockWidth s
  | '/' :: '*' :: '*' :: _ => none
  | '/' :: '*' :: '!' :: _ => none
  | '/' :: '*' :: _ => blockWidth s
  | _ => none

def triviaWidth : List Char → Option Nat
  | [] => none
  | c :: rest => if Text.isBlank c then some 1 else commentWidth (c :: rest)

/-- What follows the leading blanks and ordinary comments; the first characters, as many as given,
are known to belong to them. -/
def afterTriviaFrom : Nat → List Char → List Char
  | _, [] => []
  | known + 1, _ :: rest => afterTriviaFrom known rest
  | 0, c :: rest =>
    match triviaWidth (c :: rest) with
    | some w => afterTriviaFrom (w - 1) rest
    | none => c :: rest

def afterTrivia (s : List Char) : List Char := afterTriviaFrom 0 s

/-- A comment that documents what it stands at, or, as an inner one, what it stands in. -/
structure DocComment where
  inner : Bool
  text : List Char
  width : Nat

def hasBareReturn : List Char → Bool
  | [] => false
  | '\r' :: '\n' :: rest => hasBareReturn rest
  | '\r' :: _ => true
  | _ :: rest => hasBareReturn rest

/-- The documenting comment at the start of a text. Its text leaves out the marks. -/
def docComment? (s : List Char) : Option DocComment :=
  let line (inner : Bool) (rest : List Char) : Option DocComment :=
    some ⟨inner, lineText rest, 3 + lineWidth rest⟩
  let block (inner : Bool) : Option DocComment :=
    (blockWidth s).map fun w => ⟨inner, (s.take (w - 2)).drop 3, w⟩
  let found := match s with
    | '/' :: '/' :: '!' :: rest => line true rest
    | '/' :: '*' :: '!' :: _ => block true
    | '/' :: '/' :: '/' :: '/' :: _ => none
    | '/' :: '/' :: '/' :: rest => line false rest
    | '/' :: '*' :: '*' :: '*' :: _ => none
    | '/' :: '*' :: '*' :: _ => block false
    | _ => none
  found.filter fun d => !hasBareReturn d.text

end CommandGen.Source
