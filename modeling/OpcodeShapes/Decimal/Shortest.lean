/-!
# The shortest decimal that reads back

A finite binary64 number is m · 2^q with m below 2^53. The reals that round to
it form an interval around it, ends included when m is even. Of the decimals
d · 10^k in that interval the ones with the fewest digits are chosen, and of
those the nearest. Everything is decided by cross-multiplied natural numbers,
so no rounding enters. What happens on an exact tie is left to the caller.
-/

namespace OpcodeShapes.Decimal

set_option autoImplicit false

/-- The number `digits` · 10 ^ `exponent`. -/
structure Scaled where
  digits : Nat
  exponent : Int
  deriving DecidableEq, Repr

/-- A positive binary number `mantissa` · 2 ^ `exponent`; `lowGap` says how far the number below
it is, in units of a quarter of the last place: 4 in general, 2 just above a power of two. -/
structure Binary where
  mantissa : Nat
  exponent : Int
  lowGap : Nat
  deriving DecidableEq, Repr

structure Ratio where
  num : Nat
  den : Nat

def Ratio.scaled (n base : Nat) (e : Int) : Ratio :=
  match e with
  | .ofNat k => ⟨n * Nat.pow base k, 1⟩
  | .negSucc k => ⟨n, Nat.pow base (k + 1)⟩

def Ratio.le (a b : Ratio) : Bool := decide (a.num * b.den ≤ b.num * a.den)

def Ratio.lt (a b : Ratio) : Bool := decide (a.num * b.den < b.num * a.den)

def Binary.value (b : Binary) : Ratio := .scaled (4 * b.mantissa) 2 (b.exponent - 2)

def Binary.low (b : Binary) : Ratio := .scaled (4 * b.mantissa - b.lowGap / 2) 2 (b.exponent - 2)

def Binary.high (b : Binary) : Ratio := .scaled (4 * b.mantissa + 2) 2 (b.exponent - 2)

/-- Whether a decimal rounds to the number; an end counts when the mantissa is even. -/
def Binary.holds (b : Binary) (s : Scaled) : Bool :=
  let x := Ratio.scaled s.digits 10 s.exponent
  if b.mantissa % 2 = 0 then b.low.le x && x.le b.high else b.low.lt x && x.lt b.high

def length (n : Nat) : Nat := (Nat.toDigits 10 n).length

/-- The decimal exponent of the leading digit. The shift by 400 places makes every positive
binary64 number larger than one, so that counting digits is enough. -/
def Binary.leading (b : Binary) : Int :=
  let v := b.value
  (length (v.num * Nat.pow 10 400 / v.den) : Int) - 401

def Binary.floorAt (b : Binary) (k : Int) : Nat :=
  let v := b.value
  match k with
  | .ofNat j => v.num / (v.den * Nat.pow 10 j)
  | .negSucc j => v.num * Nat.pow 10 (j + 1) / v.den

/-- Twice the distance from `d` · 10 ^ `k` up to the number, compared with one step of the grid. -/
def Binary.upperHalf (b : Binary) (d : Nat) (k : Int) : Ordering :=
  let v := b.value
  match k with
  | .ofNat j => compare (2 * v.num) ((2 * d + 1) * Nat.pow 10 j * v.den)
  | .negSucc j => compare (2 * v.num * Nat.pow 10 (j + 1)) ((2 * d + 1) * v.den)

/-- The decimal with `n` digits that rounds to the number and is nearest to it, if there is one.
Only the two neighbours of the number on the grid can be. -/
def Binary.withDigits? (b : Binary) (tieUp : Nat → Bool) (n : Nat) : Option Scaled :=
  let k := b.leading - n + 1
  let d := b.floorAt k
  match b.holds ⟨d, k⟩, b.holds ⟨d + 1, k⟩ with
  | true, true =>
    match b.upperHalf d k with
    | .lt => some ⟨d, k⟩
    | .gt => some ⟨d + 1, k⟩
    | .eq => some ⟨if tieUp d then d + 1 else d, k⟩
  | true, false => some ⟨d, k⟩
  | false, true => some ⟨d + 1, k⟩
  | false, false => none

/-- The shortest decimal; seventeen digits always suffice. -/
def Binary.shortest (b : Binary) (tieUp : Nat → Bool) : Scaled :=
  ((List.range' 1 17).findSome? (b.withDigits? tieUp)).getD ⟨b.floorAt (b.leading - 16), b.leading - 16⟩

def Scaled.strip (s : Scaled) : Scaled :=
  let zeros := ((Nat.toDigits 10 s.digits).reverse.takeWhile (· == '0')).length
  if s.digits = 0 then ⟨0, 0⟩ else ⟨s.digits / Nat.pow 10 zeros, s.exponent + zeros⟩

inductive Parts where
  | nan
  | infinity (negative : Bool)
  | zero (negative : Bool)
  | finite (negative : Bool) (magnitude : Binary)

/-- Reads the sign, exponent and mantissa fields of the 64 bits. -/
def Parts.ofFloat (x : Float) : Parts :=
  let bits := x.toBits.toNat
  let negative := decide (bits / 0x8000000000000000 = 1)
  let field : Nat := bits / 0x10000000000000 % 0x800
  let fraction := bits % 0x10000000000000
  if field = 2047 then if fraction = 0 then .infinity negative else .nan
  else if field = 0 then
    if fraction = 0 then .zero negative else .finite negative ⟨fraction, -1074, 4⟩
  else
    .finite negative
      ⟨0x10000000000000 + fraction, Int.ofNat field - 1075, if fraction = 0 ∧ 1 < field then 2 else 4⟩

end OpcodeShapes.Decimal
