/-!
# Digits

Numbers written in bases up to sixteen, letters of either case.
-/

namespace OpcodeShapes.Text

set_option autoImplicit false

def digitValue (c : Char) : Nat :=
  if '0' ≤ c && c ≤ '9' then c.toNat - 48
  else if 'a' ≤ c && c ≤ 'f' then c.toNat - 87
  else if 'A' ≤ c && c ≤ 'F' then c.toNat - 55
  else 16

def isDigitOf (base : Nat) (c : Char) : Bool := decide (digitValue c < base)

def numberIn (base : Nat) (digits : List Char) : Nat :=
  digits.foldl (fun n c => base * n + digitValue c) 0

/-- The character of a code point in hexadecimal digits; surrogates are none. -/
def hexChar? (digits : List Char) : Option Char :=
  let code := numberIn 16 digits
  if digits.all (isDigitOf 16) then
    if valid : code.isValidChar then some (Char.ofNatAux code valid) else none
  else none

end OpcodeShapes.Text
