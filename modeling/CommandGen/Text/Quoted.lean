import CommandGen.Text.Visible

/-! Quoted literals: a backslash stands before quotes and backslashes, four controls have a letter,
and what cannot be read where it stands is written by its number. -/
namespace CommandGen.Text

/-- The number of a character in lower-case hexadecimal, without leading zeros. -/
def hexNumber (n : Nat) : List Char := Nat.toDigits 16 n

def escape (c : Char) : List Char :=
  if c = '\x00' then ['\\', '0']
  else if c = '\t' then ['\\', 't']
  else if c = '\r' then ['\\', 'r']
  else if c = '\n' then ['\\', 'n']
  else if c = '"' then ['\\', '"']
  else if c = '\\' then ['\\', '\\']
  else if isVisible c then [c]
  else ['\\', 'u', '\x7b'] ++ hexNumber c.toNat ++ ['\x7d']

def quote (s : List Char) : List Char := '"' :: (s.flatMap escape ++ ['"'])

/-- A brace is doubled where it would open or close a placeholder. -/
def doubleBrace (c : Char) : List Char :=
  if c = '\x7b' || c = '\x7d' then [c, c] else [c]

/-- A text as it stands inside the quotes of a template with placeholders. -/
def templateText (s : List Char) : List Char := (s.flatMap doubleBrace).flatMap escape

end CommandGen.Text
