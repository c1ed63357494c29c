import CommandGen.Source.Grammar
import CommandGen.Source.Position

/-! A source file and its declarations. -/
namespace CommandGen.Source

/-- A text without the byte order mark in front of it. -/
def withoutMark : List Char → List Char
  | [] => []
  | c :: rest => if c = byteOrderMark then rest else c :: rest

/-- A first line that starts with `#!` names an interpreter, unless it opens an attribute. Its end
is kept, so that the lines after it keep their numbers. -/
def withoutInterpreter (s : List Char) : List Char :=
  match s with
  | '#' :: '!' :: rest =>
    if (afterTrivia rest).head? = some '[' then s else s.dropWhile (· ≠ '\n')
  | _ => s

/-- The text that is read: what may stand in front of it is left out. -/
def bodyText (source : List Char) : List Char := withoutInterpreter (withoutMark source)

/-- A file by its name, with its text as it is read from there. -/
structure File where
  name : String
  text : String

namespace File

def body (f : File) : List Char := bodyText f.text.toList

def position (f : File) (n : Nat) : Position := positionOf f.body n

/-- The bytes of the whole text that stand at the positions of a stretch of the body. -/
def range (f : File) (span : Span) : ByteRange :=
  byteRange f.text.toList (f.position span.start) (f.position span.stop)

def location (f : File) (span : Span) : String := Source.location f.name (f.position span.start)

end File

def fileItems (g : Grammar) : Parser (List Item) := do
  innerAttributes g
  repeatUntil List.isEmpty g.item

def File.items? (f : File) : Option (List Item) := trees f.body >>= readAll fileItems

end CommandGen.Source
