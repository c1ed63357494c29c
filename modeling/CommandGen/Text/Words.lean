import CommandGen.Text.LetterCase
import CommandGen.Text.Pieces

/-! Spelling of names made of several words: joined with a capital each, or with low lines. -/
namespace CommandGen.Text

/-- A word with its first character in upper case; the rest stays as it is. -/
def capitalize : List Char → List Char
  | [] => []
  | c :: rest => upperOf c ++ rest

def isWordSeparator (c : Char) : Bool := c == '_' || c == '-'

/-- Words between low lines and hyphens, capitalized and joined: `hello_world` gives
`HelloWorld`. -/
def pascalCase (s : List Char) : List Char :=
  (pieces isWordSeparator s).flatMap capitalize

/-- An upper-case character opens a word after a lower-case one or a digit, and as the last one of a
run of capitals that a lower-case character follows. -/
def opensWord (before : Option Char) (c : Char) (after : Option Char) : Bool :=
  isUpper c && before.any fun b =>
    isLower b || b.isDigit || (isUpper b && after.any isLower)

/-- The lower-case spelling of a text that follows the given character. -/
def snakeCaseFrom (before : Option Char) : List Char → List Char
  | [] => []
  | c :: rest =>
    let spelled :=
      if c = '-' then ['_']
      else if opensWord before c rest.head? then '_' :: lowerOf c
      else lowerOf c
    spelled ++ snakeCaseFrom (some c) rest

/-- Words in lower case joined with low lines: `DescribeDBInstances` gives
`describe_db_instances`. -/
def snakeCase (s : List Char) : List Char := snakeCaseFrom none s

end CommandGen.Text
