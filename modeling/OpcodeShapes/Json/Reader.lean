import OpcodeShapes.Decimal.Rounding
import OpcodeShapes.Text.Digits
import OpcodeShapes.Text.Scanner
import OpcodeShapes.Value

/-!
# Reading JSON

White space is space, tab, line feed and carriage return. A number without
fraction and exponent is an integer as far as 64 bits go, signed below zero and
unsigned above. Any other number and -0 are binary64 numbers, computed from as
many leading digits as 64 bits hold; an infinite result is refused.
Escapes outside the Basic Multilingual Plane come as surrogate pairs, and a
surrogate without its partner is refused. Objects keep order and repeated keys.
Lists and objects nest at most 128 deep.
-/

namespace OpcodeShapes.Json

set_option autoImplicit false

open Text (Scanner digitValue isDigitOf numberIn)
open Text.Scanner

def isSpace (c : Char) : Bool := c = ' ' || c = '\t' || c = '\n' || c = '\r'

def gap : Scanner Unit := fun chars => some ((), chars.dropWhile isSpace)

def shortEscape? : Char → Option Char
  | '"' => some '"'
  | '\\' => some '\\'
  | '/' => some '/'
  | 'b' => some '\x08'
  | 'f' => some '\x0c'
  | 'n' => some '\n'
  | 'r' => some '\r'
  | 't' => some '\t'
  | _ => none

/-- The code units and code points up to the closing quote. An escape of four digits gives a code
unit; every other character gives its code point, which is never a surrogate. -/
def units : List Char → Option (List Nat × List Char)
  | '"' :: rest => some ([], rest)
  | '\\' :: 'u' :: a :: b :: c :: d :: rest => do
    guard ([a, b, c, d].all (isDigitOf 16))
    let (more, rest) ← units rest
    return (numberIn 16 [a, b, c, d] :: more, rest)
  | '\\' :: e :: rest => do
    let c ← shortEscape? e
    let (more, rest) ← units rest
    return (c.toNat :: more, rest)
  | c :: rest => do
    guard (0x20 ≤ c.toNat && c ≠ '\\')
    let (more, rest) ← units rest
    return (c.toNat :: more, rest)
  | [] => none

def join : List Nat → Option (List Char)
  | [] => some []
  | [unit] => if h : unit.isValidChar then some [Char.ofNatAux unit h] else none
  | high :: low :: rest =>
    if 0xD800 ≤ high && high < 0xDC00 then
      if 0xDC00 ≤ low && low < 0xE000 then
        (join rest).map (Char.ofNat (0x10000 + (high - 0xD800) * 0x400 + (low - 0xDC00)) :: ·)
      else none
    else if h : high.isValidChar then (join (low :: rest)).map (Char.ofNatAux high h :: ·)
    else none

def stringTail : Scanner String := fun chars => do
  let (us, rest) ← units chars
  let text ← join us
  return (String.ofList text, rest)

def digits : Scanner (List Char) := do
  let ds ← run Char.isDigit
  if ds.isEmpty then failure
  return ds

/-- Puts digits behind a number as far as 64 bits hold it, and gives back how many do not fit. -/
def held (n : Nat) : List Char → Nat × Nat
  | [] => (n, 0)
  | c :: rest =>
    let longer := 10 * n + digitValue c
    if longer < 0x10000000000000000 then held longer rest else (n, rest.length + 1)

/-- The digits before and after the point as a number of 64 bits, with the exponent of its end. -/
def leadingDigits (whole fraction : List Char) : Decimal.Scaled :=
  let (front, missing) := held 0 whole
  let (n, unused) := held front fraction
  ⟨n, (missing + unused : Int) - fraction.length⟩

def float? (negative : Bool) (s : Decimal.Scaled) : Option Value :=
  let x := Decimal.computed negative s
  if x.isInf then none else some (.float x)

def integral? (negative : Bool) (whole : List Char) : Option Value :=
  let n := numberIn 10 whole
  let fits := if negative then n ≠ 0 && n ≤ 0x8000000000000000 else n < 0x10000000000000000
  if fits then some (.integer (if negative then -n else n))
  else float? negative (leadingDigits whole [])

def exponent : Scanner Int := do
  let negative ← take? '-'
  unless negative do discard (take? '+')
  let n := numberIn 10 (← digits)
  return if negative then -n else n

def number : Scanner Value := do
  let negative ← take? '-'
  let whole ← digits
  if whole.head? = some '0' && 1 < whole.length then failure
  let fraction ← do
    if ← take? '.' then digits else pure []
  let scaled ← (do return (← take? 'e') || (← take? 'E'))
  if fraction.isEmpty && !scaled then
    return ← integral? negative whole
  let e ← if scaled then exponent else pure 0
  let s := leadingDigits whole fraction
  float? negative ⟨s.digits, s.exponent + e⟩

def member (value : Scanner Value) : Scanner (String × Value) := do
  expect ['"']
  let key ← stringTail
  gap
  expect [':']
  gap
  return (key, ← value)

/-- A value whose lists and objects nest at most `depth` deep. -/
def value (depth : Nat) : Scanner Value := do
  match ← peek? with
  | some '"' => expect ['"']; return .string (← stringTail)
  | some 'n' => expect "null".toList; return .null
  | some 't' => expect "true".toList; return .bool true
  | some 'f' => expect "false".toList; return .bool false
  | some '[' =>
    match depth with
    | 0 => failure
    | depth + 1 =>
      expect ['[']
      return .list (← items gap (value depth) ']' false)
  | some '\x7b' =>
    match depth with
    | 0 => failure
    | depth + 1 =>
      expect ['\x7b']
      return .object (← items gap (member (value depth)) '\x7d' false)
  | _ => number

def document : Scanner Value := do
  gap
  let v ← value 128
  gap
  return v

def read? (text : String) : Option Value := whole? document text

end OpcodeShapes.Json
