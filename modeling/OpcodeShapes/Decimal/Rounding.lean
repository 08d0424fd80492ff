import OpcodeShapes.Decimal.Shortest

/-!
# From decimals to binary64 numbers

There are two ways. `nearest` rounds once, so nothing is nearer to the decimal
than its result. `computed` rounds the digits, rounds a power of ten and then
multiplies or divides, which rounds again: its result can be a few units in the
last place away. The two agree where the digits and the power are exact, which
they are below 2^53 and up to 10^22.
-/

namespace OpcodeShapes.Decimal

set_option autoImplicit false

def signedFloat (negative : Bool) (magnitude : Float) : Float :=
  if negative then -magnitude else magnitude

/-- The binary64 number nearest to ± `s`. Beyond the range it is infinite or zero; the cut at
400 places keeps the powers of ten small without changing a result. -/
def nearest (negative : Bool) (s : Scaled) : Float :=
  let leading := s.exponent + length s.digits
  signedFloat negative <|
    if s.digits = 0 || leading < -400 then 0.0
    else if 400 < leading then 1.0 / 0.0
    else
      match s.exponent with
      | .ofNat k => Float.ofScientific s.digits false k
      | .negSucc k => Float.ofScientific s.digits true (k + 1)

def maxPower : Nat := 308

def power (k : Nat) : Float := Float.ofScientific 1 false k

/-- The rounded digits times or over a rounded power of ten. A division by more than the largest
power takes two steps; digits of 64 bits leave nothing after them. -/
def computed (negative : Bool) (s : Scaled) : Float :=
  let digits : Float := Float.ofScientific s.digits false 0
  signedFloat negative <|
    match s.exponent with
    | .ofNat k =>
      if s.digits = 0 then 0.0
      else if k ≤ maxPower then digits * power k
      else 1.0 / 0.0
    | .negSucc k =>
      let places := k + 1
      if places ≤ maxPower then digits / power places
      else if places ≤ 2 * maxPower then digits / power maxPower / power (places - maxPower)
      else 0.0

end OpcodeShapes.Decimal
