import CommandGen.Text.Hex
import CommandGen.Text.IdentifierChar

/-! Literals of source text: strings with escapes or raw, characters and numbers. A width is the
number of characters of a literal from its first one, and `none` where no such literal stands. -/
namespace CommandGen.Source

open Text

inductive Quoting where
  | text
  | bytes
  /-- Text without a null character. -/
  | terminated
deriving DecidableEq

def Quoting.admits : Quoting → Char → Bool
  | .text, _ => true
  | .bytes, c => c.toNat < 0x80
  | .terminated, c => c ≠ '\x00'

/-- The blanks after a line that ends in a backslash. Something has to follow them. -/
def continuationWidth : List Char → Option Nat
  | [] => none
  | '\r' :: '\n' :: rest => (continuationWidth rest).map (· + 2)
  | '\r' :: _ => none
  | c :: rest =>
    if c = ' ' ∨ c = '\t' ∨ c = '\n' then (continuationWidth rest).map (· + 1) else some 0

/-- The number between the braces of a character escape, with the width up to the closing brace: one
to six digits, with low lines between and after them. -/
def bracedNumber (digits value : Nat) : List Char → Option (Nat × Nat)
  | [] => none
  | c :: rest =>
    match hexValue? c with
    | some d =>
      if digits = 6 then none
      else (bracedNumber (digits + 1) (value * 16 + d) rest).map fun (v, w) => (v, w + 1)
    | none =>
      if digits = 0 then none
      else if c = '_' then (bracedNumber digits value rest).map fun (v, w) => (v, w + 1)
      else if c = '\x7d' then some (value, 1)
      else none

/-- A letter or mark that may follow a backslash, and the character that the two stand for. -/
def simpleEscape? (q : Quoting) : Char → Option Char
  | 'n' => some '\n'
  | 'r' => some '\r'
  | 't' => some '\t'
  | '\\' => some '\\'
  | '\'' => some '\''
  | '"' => some '"'
  | '0' => if q = .terminated then none else some '\x00'
  | _ => none

/-- An escape without its backslash: the character that it stands for, and its width. -/
def charEscape (q : Quoting) : List Char → Option (Char × Nat)
  | 'x' :: a :: b :: _ => do
    let hi ← hexValue? a
    let lo ← hexValue? b
    let n := hi * 16 + lo
    if (q = .text ∧ 0x80 ≤ n) ∨ (q = .terminated ∧ n = 0) then none
    else some (Char.ofNat n, 3)
  | 'u' :: '\x7b' :: rest => do
    if q = .bytes then none
    let (n, w) ← bracedNumber 0 0 rest
    let c ← charOfNumber? n
    if q = .terminated ∧ n = 0 then none else some (c, w + 2)
  | c :: _ => (simpleEscape? q c).map fun d => (d, 1)
  | [] => none

/-- An escape in a string, which may also stand for nothing: a line that goes on after its end. -/
def stringEscape (q : Quoting) (s : List Char) : Option (List Char × Nat) :=
  match s with
  | '\n' :: _ | '\r' :: _ => (continuationWidth s).map fun w => ([], w)
  | _ => (charEscape q s).map fun (c, w) => ([c], w)

/-- The rest of a string after its opening quote, the closing one included; the first characters, as
many as given, belong to what stood before. -/
def stringRestWidth (q : Quoting) : Nat → List Char → Option Nat
  | _, [] => none
  | known + 1, _ :: rest => (stringRestWidth q known rest).map (· + 1)
  | 0, '"' :: _ => some 1
  | 0, '\r' :: rest =>
    if rest.head? = some '\n' then (stringRestWidth q 1 rest).map (· + 1) else none
  | 0, '\\' :: rest =>
    match stringEscape q rest with
    | some (_, w) => (stringRestWidth q w rest).map (· + 1)
    | none => none
  | 0, c :: rest => if q.admits c then (stringRestWidth q 0 rest).map (· + 1) else none

/-- The value of a string from after its opening quote. A line end is a line feed in it. -/
def stringValueFrom : Nat → List Char → List Char
  | _, [] => []
  | known + 1, _ :: rest => stringValueFrom known rest
  | 0, '"' :: _ => []
  | 0, '\r' :: rest => stringValueFrom 0 rest
  | 0, '\\' :: rest =>
    match stringEscape .text rest with
    | some (value, w) => value ++ stringValueFrom w rest
    | none => []
  | 0, c :: rest => c :: stringValueFrom 0 rest

/-- The rest of a raw string after its opening quote, closed by a quote and so many hashes. -/
def rawRestWidth (q : Quoting) (hashes : Nat) : List Char → Option Nat
  | [] => none
  | '\r' :: '\n' :: rest => (rawRestWidth q hashes rest).map (· + 2)
  | '\r' :: _ => none
  | c :: rest =>
    if c = '"' ∧ rest.take hashes = List.replicate hashes '#' then some (1 + hashes)
    else if q.admits c then (rawRestWidth q hashes rest).map (· + 1)
    else none

def plainIdentifierWidth : List Char → Option Nat
  | [] => none
  | c :: rest =>
    if isIdentifierStart c then some (1 + (rest.takeWhile isIdentifierContinue).length) else none

/-- An identifier that follows a literal at once is its suffix. -/
def suffixWidth (s : List Char) : Nat := (plainIdentifierWidth s).getD 0

def withSuffix (s : List Char) (w : Nat) : Nat := w + suffixWidth (s.drop w)

def rawWidth (q : Quoting) (s : List Char) : Option Nat :=
  let hashes := (s.takeWhile (· == '#')).length
  match s.drop hashes with
  | '"' :: rest =>
    if 255 < hashes then none else (rawRestWidth q hashes rest).map (hashes + 1 + ·)
  | _ => none

/-- What stands between the quotes of a raw literal, from its hashes on. -/
def rawValue (s : List Char) (w : Nat) : List Char :=
  let hashes := (s.takeWhile (· == '#')).length
  (s.take (w - hashes - 1)).drop (hashes + 1)

/-- A character between single quotes, from after the opening one. -/
def characterRestWidth (q : Quoting) (s : List Char) : Option Nat := do
  let w ← match s with
    | '\\' :: rest => (charEscape q rest).map fun (_, w) => w + 1
    | c :: _ => if q.admits c then some 1 else none
    | [] => none
  if (s.drop w).head? = some '\'' then some (w + 1) else none

/-- A number may not run into a character that continues identifiers. -/
def endsWord (s : List Char) : Bool := !(s.head?.any isIdentifierContinue)

/-- The width of a number with its suffix, given that of its digits. -/
def numberWidth (s : List Char) (digits : Nat) : Option Nat :=
  let w := withSuffix s digits
  if endsWord (s.drop w) then some w else none

/-- The exponent of a number, from after its letter, of which and all before the width is given. One
without a digit is no exponent, and the number is what stood before it, if that has a point. -/
def exponentWidth (without : Option Nat) (width : Nat) (signed valued : Bool) :
    List Char → Option Nat
  | [] => if valued then some width else without
  | c :: rest =>
    if c = '+' ∨ c = '-' then
      if valued then some width
      else if signed then without
      else exponentWidth without (width + 1) true valued rest
    else if c.isDigit then exponentWidth without (width + 1) signed true rest
    else if c = '_' then exponentWidth without (width + 1) signed valued rest
    else if valued then some width
    else without

/-- Digits with a point or an exponent. A point is not taken where another point or an identifier
follows it. -/
def pointWidth (width : Nat) (pointed : Bool) : List Char → Option Nat
  | [] => if pointed then some width else none
  | c :: rest =>
    if c.isDigit ∨ c = '_' then pointWidth (width + 1) pointed rest
    else if c = '.' then
      if pointed then some width
      else if rest.head?.any fun d => d == '.' || isIdentifierStart d then none
      else pointWidth (width + 1) true rest
    else if c = 'e' ∨ c = 'E' then
      exponentWidth (if pointed then some width else none) (width + 1) false false rest
    else if pointed then some width
    else none

def floatWidth (s : List Char) : Option Nat :=
  match s with
  | c :: rest => if c.isDigit then pointWidth 1 false rest >>= numberWidth s else none
  | [] => none

/-- Digits in a base, with low lines between; a decimal number does not start with one. -/
def digitsWidth (base : Nat) (empty : Bool) : List Char → Option Nat
  | [] => if empty then none else some 0
  | c :: rest =>
    match hexValue? c with
    | some d =>
      if d < base then (digitsWidth base false rest).map (· + 1)
      else if c.isDigit then none
      else if empty then none
      else some 0
    | none =>
      if c = '_' then
        if empty ∧ base = 10 then none else (digitsWidth base empty rest).map (· + 1)
      else if empty then none
      else some 0

/-- The base that the start of a number names, and what follows its mark. -/
def numberBase : List Char → Nat × Nat
  | '0' :: 'x' :: _ => (16, 2)
  | '0' :: 'o' :: _ => (8, 2)
  | '0' :: 'b' :: _ => (2, 2)
  | _ => (10, 0)

/-- An integer: the width of its digits and base mark, and the width of all of it. -/
def integerWidths (s : List Char) : Option (Nat × Nat) := do
  let (base, mark) := numberBase s
  let digits ← digitsWidth base true (s.drop mark)
  let width ← numberWidth s (mark + digits)
  return (mark + digits, width)

def numberValue (s : List Char) : Nat :=
  let (base, mark) := numberBase s
  ((s.drop mark).filterMap hexValue?).foldl (fun n d => n * base + d) 0

inductive Literal where
  | string (value : String)
  /-- An integer without a suffix has its value. -/
  | integer (value : Option Nat)
  | float (lexeme : List Char)
  | other
deriving DecidableEq

def stringLiteral : List Char → Option (Literal × Nat)
  | '"' :: rest =>
    (stringRestWidth .text 0 rest).map fun w =>
      (.string (String.ofList (stringValueFrom 0 rest)), 1 + withSuffix rest w)
  | 'r' :: rest =>
    (rawWidth .text rest).map fun w =>
      (.string (String.ofList (rawValue rest w)), 1 + withSuffix rest w)
  | _ => none

def quotedLiteral (s : List Char) : Option Nat :=
  let closed (mark : Nat) (rest : List Char) (w : Option Nat) : Option Nat :=
    w.map fun w => mark + withSuffix rest w
  match s with
  | 'b' :: '"' :: rest => closed 2 rest (stringRestWidth .bytes 0 rest)
  | 'b' :: 'r' :: rest => closed 2 rest (rawWidth .bytes rest)
  | 'c' :: '"' :: rest => closed 2 rest (stringRestWidth .terminated 0 rest)
  | 'c' :: 'r' :: rest => closed 2 rest (rawWidth .terminated rest)
  | 'b' :: '\'' :: rest => closed 2 rest (characterRestWidth .bytes rest)
  | '\'' :: rest => closed 1 rest (characterRestWidth .text rest)
  | _ => none

def numberLiteral (s : List Char) : Option (Literal × Nat) :=
  match floatWidth s with
  | some w => some (.float (s.take w), w)
  | none => (integerWidths s).map fun (digits, w) =>
    (.integer (if w = digits then some (numberValue (s.take digits)) else none), w)

def literal? (s : List Char) : Option (Literal × Nat) :=
  (stringLiteral s).orElse fun _ =>
    ((quotedLiteral s).map fun w => (.other, w)).orElse fun _ => numberLiteral s

end CommandGen.Source
