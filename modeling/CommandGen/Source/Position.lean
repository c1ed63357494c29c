/-! Places in source text: by line and column, and by byte. -/
namespace CommandGen.Source

/-- A line, counted from one, and a column in characters, counted from zero. -/
structure Position where
  line : Nat
  column : Nat
deriving DecidableEq

def Position.after (p : Position) : Nat → List Char → Position
  | 0, _ => p
  | _, [] => p
  | n + 1, c :: rest =>
    let next : Position := if c = '\n' then ⟨p.line + 1, 0⟩ else ⟨p.line, p.column + 1⟩
    next.after n rest

def positionOf (text : List Char) (n : Nat) : Position := Position.after ⟨1, 0⟩ n text

def byteCount : List Char → Nat
  | [] => 0
  | c :: rest => c.utf8Size + byteCount rest

/-- So many lines from the front with their ends, and what follows them. -/
def cutLines : Nat → List Char → List Char × List Char
  | 0, s => ([], s)
  | _, [] => ([], [])
  | n + 1, c :: rest =>
    let (lines, after) := if c = '\n' then cutLines n rest else cutLines (n + 1) rest
    (c :: lines, after)

/-- The number of bytes before a position. What lies past the end of the text is its end, and a
column past the end of its line goes on in the lines below. -/
def byteOffset (source : List Char) (p : Position) : Nat :=
  let (above, rest) := cutLines (p.line - 1) source
  byteCount above + byteCount (rest.take p.column)

/-- Bytes of a file from an offset on. -/
structure ByteRange where
  offset : Nat
  length : Nat
deriving DecidableEq

/-- The bytes between two positions, none if they are in the wrong order. -/
def byteRange (source : List Char) (start stop : Position) : ByteRange :=
  let first := byteOffset source start
  ⟨first, byteOffset source stop - first⟩

def location (fileName : String) (p : Position) : String := fileName ++ ":" ++ toString p.line

end CommandGen.Source
