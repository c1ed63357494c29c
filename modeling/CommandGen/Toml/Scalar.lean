import CommandGen.Text.Hex
import CommandGen.Text.Pieces

/-! Values without quotes or brackets: truth values, numbers, dates and times. -/
namespace CommandGen.Toml

open Text

def isGrouped (isDigit : Char → Bool) (s : List Char) : Bool :=
  (pieces (· == '_') s).all fun group => !group.isEmpty && group.all isDigit

def isDecimal (s : List Char) : Bool :=
  isGrouped Char.isDigit s && (s.length = 1 || s.head? ≠ some '0')

def isMarked (s : List Char) : Bool :=
  match s with
  | '0' :: 'x' :: digits => isGrouped (fun c => (hexValue? c).isSome) digits
  | '0' :: 'o' :: digits => isGrouped (fun c => '0' ≤ c && c ≤ '7') digits
  | '0' :: 'b' :: digits => isGrouped (fun c => c == '0' || c == '1') digits
  | _ => false

def withoutSign : List Char → List Char
  | '+' :: rest => rest
  | '-' :: rest => rest
  | s => s

def cutExponent (s : List Char) : Option (List Char × List Char) :=
  (cutAt 'e' s).orElse fun _ => cutAt 'E' s

def isFraction (s : List Char) : Bool :=
  let (mantissa, exponent) := match cutExponent s with
    | some (m, e) => (m, some e)
    | none => (s, none)
  let whole := match cutAt '.' mantissa with
    | some (n, places) => isDecimal n && isGrouped Char.isDigit places
    | none => exponent.isSome && isDecimal mantissa
  whole && exponent.all fun e => isGrouped Char.isDigit (withoutSign e)

def isNumber (s : List Char) : Bool :=
  let unsigned := withoutSign s
  isMarked s || isDecimal unsigned || isFraction unsigned || unsigned = "inf".toList ||
    unsigned = "nan".toList

def digits? (n : Nat) (s : List Char) : Option (Nat × List Char) :=
  let ds := s.take n
  if ds.length = n ∧ ds.all Char.isDigit then
    some (ds.foldl (fun v d => v * 10 + (d.toNat - '0'.toNat)) 0, s.drop n)
  else none

def after? (mark : Char) : List Char → Option (List Char)
  | [] => none
  | c :: rest => if c = mark then some rest else none

def isLeapYear (year : Nat) : Bool := year % 4 = 0 && (year % 100 ≠ 0 || year % 400 = 0)

def daysIn (year month : Nat) : Nat :=
  if month = 2 then (if isLeapYear year then 29 else 28)
  else if month = 4 ∨ month = 6 ∨ month = 9 ∨ month = 11 then 30
  else 31

def date? (s : List Char) : Option (List Char) := do
  let (year, s) ← digits? 4 s
  let (month, s) ← digits? 2 (← after? '-' s)
  let (day, s) ← digits? 2 (← after? '-' s)
  guard (1 ≤ month ∧ month ≤ 12 ∧ 1 ≤ day ∧ day ≤ daysIn year month)
  return s

def seconds? (s : List Char) : Option (List Char) := do
  let some s := after? ':' s | return s
  let (second, s) ← digits? 2 s
  guard (second ≤ 60)
  let some s := after? '.' s | return s
  guard (s.head?.any Char.isDigit)
  return s.dropWhile Char.isDigit

def time? (s : List Char) : Option (List Char) := do
  let (hour, s) ← digits? 2 s
  let (minute, s) ← digits? 2 (← after? ':' s)
  guard (hour ≤ 23 ∧ minute ≤ 59)
  seconds? s

def zone? (s : List Char) : Option (List Char) :=
  match s with
  | [] => some []
  | c :: rest =>
    if c = 'Z' ∨ c = 'z' then some rest
    else if c = '+' ∨ c = '-' then do
      let (hour, s) ← digits? 2 rest
      let (minute, s) ← digits? 2 (← after? ':' s)
      guard (hour ≤ 23 ∧ minute ≤ 59)
      return s
    else none

/-- A date, a time of day, or both with a letter or a space between. -/
def isMoment (s : List Char) : Bool :=
  match date? s with
  | some [] => true
  | some (c :: rest) =>
    (c = 'T' || c = 't' || c = ' ') && (time? rest >>= zone?) = some []
  | none => time? s = some []

def isScalar (s : List Char) : Bool :=
  s = "true".toList || s = "false".toList || isNumber s || isMoment s

end CommandGen.Toml
