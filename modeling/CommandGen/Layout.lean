/-! Indented text, written line by line. A block indents its body by one level between a header and
a closing line; a blank line is never indented. -/
namespace CommandGen

inductive Indent where
  | spaces (width : Nat)
  | tab
deriving DecidableEq

/-- Widths of two and eight are kept, any other width is four. -/
def Indent.unit : Indent → String
  | .spaces 2 => "  "
  | .spaces 8 => "        "
  | .spaces _ => "    "
  | .tab => "\t"

def Indent.standard : Indent := .spaces 4

inductive Step where
  | line (text : String)
  | blank
  | doc (text : String)
  | indent
  | dedent
  | block (header close : String) (body : List Step)

/-- Text written so far, and the level at which the next line starts. -/
structure Layout where
  style : Indent := .standard
  level : Nat := 0
  text : String := ""

namespace Layout

def margin (b : Layout) : String := String.join (List.replicate b.level b.style.unit)

def write (b : Layout) (s : String) : Layout := { b with text := b.text ++ b.margin ++ s ++ "\n" }

def deeper (b : Layout) : Layout := { b with level := b.level + 1 }

/-- One level out; at the outermost level nothing changes. -/
def shallower (b : Layout) : Layout := { b with level := b.level - 1 }

mutual

def add (b : Layout) : Step → Layout
  | .line s => b.write s
  | .blank => { b with text := b.text ++ "\n" }
  | .doc s => b.write ("/// " ++ s)
  | .indent => b.deeper
  | .dedent => b.shallower
  | .block header close body => ((b.write header).deeper.addAll body).shallower.write close

def addAll (b : Layout) : List Step → Layout
  | [] => b
  | s :: rest => (b.add s).addAll rest

end

end Layout

def layOut (steps : List Step) : String := (({} : Layout).addAll steps).text

def Step.braced (header : String) (body : List Step) : Step :=
  .block (header ++ " \x7b") "\x7d" body

end CommandGen
