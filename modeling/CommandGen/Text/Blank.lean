import CommandGen.Text.Ranges

/-! White space between tokens: the blanks of Unicode 17 and the two direction marks. -/
namespace CommandGen.Text

def blankRanges : Ranges :=
  [(0x09, 0x0D), (0x20, 0x20), (0x85, 0x85), (0xA0, 0xA0), (0x1680, 0x1680), (0x2000, 0x200A),
   (0x2028, 0x2029), (0x202F, 0x202F), (0x205F, 0x205F), (0x3000, 0x3000)]

def isBlank (c : Char) : Bool :=
  blankRanges.covers c.toNat || c == '\u200e' || c == '\u200f'

end CommandGen.Text
