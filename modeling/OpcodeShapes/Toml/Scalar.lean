import OpcodeShapes.Decimal.Rounding
import OpcodeShapes.Text.Digits
import OpcodeShapes.Value

/-!
# Bare scalars of TOML

A scalar without quotes is a boolean, an integer, a float, or a date or time.
Which one it is, and whether it is well-formed, is decided on the whole run of
characters. Underscores may stand between digits only. Decimal integers and the
whole part of a float have no leading zero; the other bases have no sign.

A number can be well-formed and yet have no value. Its value is null then, which
nothing that reads a configuration takes: so it matters only where it is read.
Without a value are integers beyond 64 bits signed, floats beyond every finite
number, a mark of a base without digits, and decimal integers that after their
first underscore go on with other characters.

Dates and times are checked for ranges and for the length of months; their value
is a table with one reserved key, which nothing that reads a configuration knows.
-/

namespace OpcodeShapes.Toml

set_option autoImplicit false

open Text (isDigitOf numberIn)

/-- Whether every underscore stands between two digits. `inside` says that a digit stands in
front. -/
def isGrouped (isDigit : Char → Bool) : Bool → List Char → Bool
  | _, [] => true
  | inside, '_' :: rest => inside && rest.head?.any isDigit && isGrouped isDigit false rest
  | _, c :: rest => isGrouped isDigit (isDigit c) rest

def ungrouped? (isDigit : Char → Bool) (chars : List Char) : Option (List Char) :=
  if isGrouped isDigit false chars then some (chars.filter (· ≠ '_')) else none

def digits? (isDigit : Char → Bool) (chars : List Char) : Option (List Char) := do
  let digits ← ungrouped? isDigit chars
  guard (!digits.isEmpty && digits.all isDigit)
  return digits

/-- Whether a run begins with a digit, and with a zero only if that is all. -/
def isUnpadded : List Char → Bool
  | [] => false
  | [c] => c.isDigit
  | c :: _ => c.isDigit && c ≠ '0'

def signed (chars : List Char) : Bool × List Char :=
  match chars with
  | '-' :: rest => (true, rest)
  | '+' :: rest => (false, rest)
  | _ => (false, chars)

def integerValue (n : Int) : Value :=
  if -0x8000000000000000 ≤ n ∧ n < 0x8000000000000000 then .integer n else .null

def floatValue (x : Float) : Value := if x.isInf then .null else .float x

def inBase? (base : Nat) (chars : List Char) : Option Value :=
  if chars.isEmpty then some .null
  else (digits? (isDigitOf base) chars).map fun digits => integerValue (numberIn base digits)

/-- A decimal integer behind its sign. What follows the first underscore may be no number, as long
as it is no float, has no space and keeps digits of base sixteen around its underscores. -/
def decimal? (negative : Bool) (chars : List Char) : Option Value := do
  let rest := chars.dropWhile Char.isDigit
  guard (rest.head?.all (· = '_'))
  guard (rest.all fun c => c ≠ '.' && c ≠ 'e' && c ≠ 'E' && c ≠ ' ')
  let digits ← ungrouped? (isDigitOf 16) chars
  guard (isUnpadded digits)
  if digits.all Char.isDigit then
    let n : Int := numberIn 10 digits
    return integerValue (if negative then -n else n)
  return .null

def integer? (chars : List Char) : Option Value :=
  match chars with
  | '0' :: 'x' :: rest => inBase? 16 rest
  | '0' :: 'o' :: rest => inBase? 8 rest
  | '0' :: 'b' :: rest => inBase? 2 rest
  | _ =>
    let (negative, rest) := signed chars
    decimal? negative rest

def cut (isMark : Char → Bool) (chars : List Char) : List Char × List Char :=
  (chars.takeWhile (!isMark ·), chars.dropWhile (!isMark ·))

def exponent? (chars : List Char) : Option Int :=
  match chars with
  | [] => some 0
  | _ :: rest => do
    let (negative, rest) := signed rest
    let n : Int := numberIn 10 (← digits? Char.isDigit rest)
    return if negative then -n else n

def fraction? (chars : List Char) : Option (List Char) :=
  match chars with
  | [] => some []
  | _ :: rest => digits? Char.isDigit rest

def float? (chars : List Char) : Option Value :=
  let (negative, unsigned) := signed chars
  if unsigned = "inf".toList then some (.float (if negative then -(1.0 / 0.0) else 1.0 / 0.0))
  else if unsigned = "nan".toList then some (.float (0.0 / 0.0))
  else do
    let (places, scale) := cut (fun c => c = 'e' || c = 'E') unsigned
    let (front, back) := cut (· = '.') places
    guard (!(back.isEmpty && scale.isEmpty))
    let whole ← digits? Char.isDigit front
    guard (isUnpadded whole)
    let fraction ← fraction? back
    let exponent ← exponent? scale
    return floatValue <|
      Decimal.nearest negative ⟨numberIn 10 (whole ++ fraction), exponent - fraction.length⟩

def fixed? (n : Nat) (chars : List Char) : Option (Nat × List Char) :=
  let digits := chars.take n
  if digits.length = n && digits.all Char.isDigit then
    some (numberIn 10 digits, chars.drop n)
  else none

def literally? (c : Char) (chars : List Char) : Option (List Char) :=
  match chars with
  | d :: rest => if d = c then some rest else none
  | [] => none

def isLeap (year : Nat) : Bool := year % 4 = 0 && (year % 100 ≠ 0 || year % 400 = 0)

def monthLength (year month : Nat) : Nat :=
  if month = 2 then if isLeap year then 29 else 28
  else if month = 4 || month = 6 || month = 9 || month = 11 then 30
  else 31

def date? (chars : List Char) : Option (List Char) := do
  let (year, chars) ← fixed? 4 chars
  let chars ← literally? '-' chars
  let (month, chars) ← fixed? 2 chars
  let chars ← literally? '-' chars
  let (day, chars) ← fixed? 2 chars
  guard (1 ≤ month && month ≤ 12 && 1 ≤ day && day ≤ monthLength year month)
  return chars

def subsecond? (chars : List Char) : Option (List Char) :=
  match chars with
  | '.' :: rest =>
    if (rest.takeWhile Char.isDigit).isEmpty then none else some (rest.dropWhile Char.isDigit)
  | _ => some chars

/-- Takes a time off the front. Seconds may be missing. -/
def time? (chars : List Char) : Option (List Char) := do
  let (hour, chars) ← fixed? 2 chars
  let chars ← literally? ':' chars
  let (minute, chars) ← fixed? 2 chars
  guard (hour ≤ 23 && minute ≤ 59)
  match chars with
  | ':' :: rest => do
    let (second, rest) ← fixed? 2 rest
    guard (second ≤ 60)
    subsecond? rest
  | _ => return chars

def isOffset (chars : List Char) : Bool :=
  match chars with
  | [] => true
  | [c] => c = 'Z' || c = 'z'
  | c :: rest =>
    (c = '+' || c = '-') &&
      match fixed? 2 rest with
      | some (hour, ':' :: rest) =>
        match fixed? 2 rest with
        | some (minute, []) => decide (hour ≤ 23 ∧ minute ≤ 59)
        | _ => false
      | _ => false

def isDateTime (chars : List Char) : Bool :=
  match date? chars with
  | some [] => true
  | some (c :: rest) =>
    (c = 'T' || c = 't' || c = ' ') &&
      match time? rest with
      | some rest => isOffset rest
      | none => false
  | none => time? chars = some []

/-- The only key of the table that stands for a date or a time. -/
def dateTimeKey : String := "$__toml_private_datetime"

def dateTime? (chars : List Char) : Option Value :=
  if isDateTime chars then some (.object [(dateTimeKey, .string (String.ofList chars))]) else none

def scalar? (chars : List Char) : Option Value :=
  if chars = "true".toList then some (.bool true)
  else if chars = "false".toList then some (.bool false)
  else integer? chars <|> float? chars <|> dateTime? chars

end OpcodeShapes.Toml
